import CodeReview.Text.Case

/-!
Letters that are the same but for their case. Some letters in lower case share one letter in upper
case, as the two forms of s do, and are then the same too.
-/

namespace CodeReview.Text

/-- Letters in lower case that have the same upper case. -/
def lowerVariantRows : List (List Nat) :=
  [[0x69, 0x131], [0x73, 0x17F], [0xB5, 0x3BC], [0x345, 0x3B9, 0x1FBE], [0x390, 0x1FD3],
    [0x3B0, 0x1FE3], [0x3B2, 0x3D0], [0x3B5, 0x3F5], [0x3B8, 0x3D1], [0x3BA, 0x3F0], [0x3C0, 0x3D6],
    [0x3C1, 0x3F1], [0x3C2, 0x3C3], [0x3C6, 0x3D5], [0x432, 0x1C80], [0x434, 0x1C81],
    [0x43E, 0x1C82], [0x441, 0x1C83], [0x442, 0x1C84, 0x1C85], [0x44A, 0x1C86], [0x463, 0x1C87],
    [0x1C88, 0xA64B], [0x1E61, 0x1E9B], [0xFB05, 0xFB06]]

/-- The other letters in lower case that have the upper case of `c`. -/
def lowerVariants (c : Char) : List Char :=
  (((lowerVariantRows.find? (·.contains c.toNat)).getD []).filter (· ≠ c.toNat)).map Char.ofNat

/-- Whether `c` is the letter `p`, given in lower case, but for case. -/
def sameLetter (p c : Char) : Bool :=
  let l := toLowerChar c
  l = p || (lowerVariants p).any (· = l)

/-- What follows a word, given in lower case, at the start of a text. -/
def afterWord? : Text → Text → Option Text
  | [], t => some t
  | _ :: _, [] => none
  | p :: ps, c :: cs => if sameLetter p c then afterWord? ps cs else none

end CodeReview.Text
