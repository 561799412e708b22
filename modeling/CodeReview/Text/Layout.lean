import CodeReview.Text.Blank

/-!
Texts laid out for reading: cut to a length, with line numbers, moved to the right or the left.
-/

namespace CodeReview.Text

/-- Cuts a text that is too long and marks the cut. The mark counts; where it leaves less than
nothing, the cut is counted from the end. -/
def truncate (t : Text) (most : Int) (mark : Text) : Text :=
  if t.length ≤ most then t else slice t 0 (most - mark.length) ++ mark

/-- A line with its number in four columns. -/
def numbered (lead : Text) (number : Nat) (line : Text) : Text :=
  lead ++ " " ++ padLeft 4 (ofNat number) ++ " | " ++ line

/-- A line with some lines before and after it. The line has a marker in front. -/
def highlight (source : Text) (number context : Int) (marker : Text) : Text :=
  let ls := lines source
  if number < 1 || (ls.length : Int) < number then []
  else
    let start := (max 0 (number - context - 1)).toNat
    let stop := (min (ls.length : Int) (number + context)).toNat
    unlines ((((ls.zipIdx 1).take stop).drop start).map fun (line, n) =>
      numbered (if (n : Int) = number then marker else "   ") n line)

/-- Moves all lines to the right; those that are empty too. -/
def indent (source : Text) (blanks : Int) : Text :=
  unlines ((lines source).map fun line => repeated blanks.toNat ' ' ++ line)

/-- The number of blank characters that a line starts with. -/
def margin (line : Text) : Nat :=
  (line.takeWhile isBlank).length

/-- Moves all lines to the left by the least margin. Blank lines neither count nor move. -/
def dedent (source : Text) : Text :=
  let ls := lines source
  match ((ls.filter fun line => !allBlank line).map margin).min? with
  | none => source
  | some least => unlines (ls.map fun line => if allBlank line then line else line.drop least)

/-- Four blanks for a tab, one kind of line end, and nothing blank at the ends of lines and of the
text. -/
def tidy (t : Text) : Text :=
  let t := replace (replace (replace t "\t" "    ") "\r\n" "\n") "\r" "\n"
  unlines (((lines t).map stripRight).reverse.dropWhile List.isEmpty).reverse

/-- The lines from one number to another; a last number below zero counts from the end. -/
def lineRange (source : Text) (first last : Int) : Text :=
  let ls := lines source
  unlines (slice ls (max 0 (first - 1)) (min ls.length last))

/-- The number of the first line in which something occurs. -/
def lineWith? (source part : Text) : Option Nat :=
  ((lines source).findIdx? fun line => contains line part).map (· + 1)

/-- A text between fences with the name of a language. -/
def fenced (source language : Text) : Text :=
  "```" ++ language ++ "\n" ++ source ++ "\n```"

end CodeReview.Text
