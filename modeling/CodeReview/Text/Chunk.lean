import CodeReview.Text.Basic

/-!
A text in chunks of lines that overlap.
-/

namespace CodeReview.Text

/-- A part of a text with the number of its first line. -/
structure Chunk where
  line : Int
  text : Text
  deriving DecidableEq, Repr

/-- The chunks from a line on, counted from zero. There are none if `fuel` chunks are not
enough. -/
def chunksFrom (ls : List Text) (most overlap : Int) : Nat → Int → Option (List Chunk)
  | 0, _ => none
  | fuel + 1, i =>
    if (ls.length : Int) ≤ i then some []
    else
      let stop := min (i + most) ls.length
      let chunk : Chunk := { line := i + 1, text := unlines (slice ls i stop) }
      let next := stop - overlap
      if ls.length - overlap ≤ next then some [chunk]
      else (chunksFrom ls most overlap fuel next).map (chunk :: ·)

/-- A text in chunks of at most so many lines, each of which repeats some lines of the one before.
There are none where the chunks would never reach the end. -/
def chunks (source : Text) (most overlap : Int) : Option (List Chunk) :=
  let ls := lines source
  chunksFrom ls most overlap (ls.length + 1) 0

end CodeReview.Text
