import CodeReview.Text.Blank

/-!
A source without its comments, found line by line: a string never goes on in the next line.
-/

namespace CodeReview.Source

/-- An open string: its quote, and whether that is written three times. -/
structure Quotation where
  quote : Char
  triple : Bool
  deriving DecidableEq, Repr

/-- A line up to its comment. The number counts characters that are taken over as they are. A
backslash that ends the line inside of a string is written twice. -/
def uncommentedFrom (inside : Option Quotation) : Nat → Text → Text
  | _, [] => []
  | n + 1, c :: cs => c :: uncommentedFrom inside n cs
  | 0, c :: cs =>
    match inside with
    | none =>
      if c = '#' then []
      else if c = '"' || c = '\'' then
        if cs.take 2 = [c, c] then c :: uncommentedFrom (some ⟨c, true⟩) 2 cs
        else c :: uncommentedFrom (some ⟨c, false⟩) 0 cs
      else c :: uncommentedFrom none 0 cs
    | some q =>
      if c = '\\' then
        if cs.isEmpty then [c, c] else c :: uncommentedFrom inside 1 cs
      else if q.triple && (c :: cs).take 3 = [q.quote, q.quote, q.quote] then
        c :: uncommentedFrom none 2 cs
      else if !q.triple && c = q.quote then c :: uncommentedFrom none 0 cs
      else c :: uncommentedFrom inside 0 cs

def uncommentedLine (line : Text) : Text :=
  Text.stripRight (uncommentedFrom none 0 line)

def uncommented (source : Text) : Text :=
  Text.unlines ((Text.lines source).map uncommentedLine)

end CodeReview.Source
