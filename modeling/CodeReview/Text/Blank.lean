import CodeReview.Text.Ranges

/-!
White space: the characters that separate words, and cutting text at them.
-/

namespace CodeReview.Text

/-- Tab to carriage return, the four information separators, the space, and the separators and
spaces outside ASCII. -/
def isBlank (c : Char) : Bool :=
  let n := c.toNat
  (9 ≤ n && n ≤ 13) || (28 ≤ n && n ≤ 32) ||
    (127 < n && Ranges.has
      [(0x85, 0x85), (0xA0, 0xA0), (0x1680, 0x1680), (0x2000, 0x200A), (0x2028, 0x2029),
        (0x202F, 0x202F), (0x205F, 0x205F), (0x3000, 0x3000)] c)

/-- No character but white space. -/
def allBlank (t : Text) : Bool :=
  t.all isBlank

def stripLeft (t : Text) : Text :=
  t.dropWhile isBlank

def stripRight (t : Text) : Text :=
  dropRightWhile isBlank t

def strip (t : Text) : Text :=
  stripRight (stripLeft t)

/-- The words of a text; `acc` is the word being read, backwards. -/
def wordsAux : Text → Text → List Text
  | acc, [] => if acc.isEmpty then [] else [acc.reverse]
  | acc, c :: cs =>
    if isBlank c then
      if acc.isEmpty then wordsAux [] cs else acc.reverse :: wordsAux [] cs
    else wordsAux (c :: acc) cs

def words (t : Text) : List Text :=
  wordsAux [] t

end CodeReview.Text
