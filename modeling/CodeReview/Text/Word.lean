import CodeReview.Text.Identifier
import CodeReview.Text.WordTable

/-!
Word characters: letters, characters with a numeric value, and the underscore.
-/

namespace CodeReview.Text

def isWord (c : Char) : Bool :=
  if c.toNat < 128 then c.isAlphanum || c = '_'
  else (isIdentifierStart c && !startingMarkTable.has c) || numberTable.has c
    || innerLetterTable.has c

/-- A decimal digit of any script. -/
def isDigit (c : Char) : Bool :=
  if c.toNat < 128 then c.isDigit else digitTable.has c

/-- A letter of any script. -/
def isLetter (c : Char) : Bool :=
  if c.toNat < 128 then c.isAlpha else isWord c && !numberTable.has c

/-- The maximal runs of word characters; `acc` is the run being read, backwards. -/
def wordRunsAux : Text → Text → List Text
  | acc, [] => if acc.isEmpty then [] else [acc.reverse]
  | acc, c :: cs =>
    if isWord c then wordRunsAux (c :: acc) cs
    else if acc.isEmpty then wordRunsAux [] cs else acc.reverse :: wordRunsAux [] cs

def wordRuns (t : Text) : List Text :=
  wordRunsAux [] t

end CodeReview.Text
