import CodeReview.Entries
import CodeReview.Likeness.Normal
import CodeReview.Value

/-!
Blocks of lines that occur more than once.
-/

namespace CodeReview.Likeness

/-- A block of lines in a file. -/
structure Window where
  file : Text
  line : Int
  text : Text
  deriving DecidableEq, Repr

/-- Blocks that are alike, in the order in which they are found. -/
structure Duplicate where
  digest : Text
  windows : List Window
  lines : Int
  deriving DecidableEq, Repr

namespace Duplicate

/-- The text of the first block. -/
def text (d : Duplicate) : Text :=
  (d.windows.head?.map (·.text)).getD []

def toValue (d : Duplicate) : Value :=
  let window (w : Window) : Value := .record [("file", .text w.file), ("line", .ofInt w.line)]
  .record
    [("hash", .text d.digest), ("occurrences", .list (d.windows.map window)),
      ("code", .text d.text), ("lines", .ofInt d.lines)]

end Duplicate

/-- All blocks of `count` lines of a file. -/
def windows (count : Int) (file source : Text) : List Window :=
  let ls := Text.lines source
  (List.range ((ls.length : Int) - count + 1).toNat).map fun (i : Nat) =>
    { file := file, line := i + 1, text := Text.unlines (Text.slice ls i (i + count)) }

/-- Adds a block to those with its digest. -/
def group : Entries (List Window) → Window → Entries (List Window) :=
  Entries.gather fun w => sourceDigest w.text

/-- Whether a block has enough lines that count: it does not start or end with blank lines. -/
def isFull (count : Int) (text : Text) : Bool :=
  let core := Text.strip text
  !core.isEmpty && count ≤ (Text.lines core).length

/-- The blocks of `count` lines that occur more than once in some files. -/
def duplicates (files : Entries Text) (count : Int) : List Duplicate :=
  let all := files.flatMap fun f => windows count f.1 f.2
  let found := (all.foldl group []).map fun g =>
    ({ digest := g.1, windows := g.2, lines := count } : Duplicate)
  found.filter fun d => 1 < d.windows.length && isFull count d.text

end CodeReview.Likeness
