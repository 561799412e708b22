import CodeReview.Issue
import CodeReview.Settings.Basic
import CodeReview.Source.Language

/-!
Analyzers: checks that look at one source and give issues.
-/

namespace CodeReview

/-- A source file under review. -/
structure Subject where
  path : Text
  source : Text

structure Analyzer where
  name : Text
  description : Text
  /-- Looks at a source. A caller that has read the source already hands its tree over, and the
  tree is left as it is. -/
  run : Subject → Option Source.Node → Except Failure (List Issue)

/-- What a caller hands over as a check of its own: an analyzer, or a value that is none. -/
inductive Plugin where
  | analyzer (a : Analyzer)
  | other (v : Value)

def Plugin.analyzer? : Plugin → Option Analyzer
  | analyzer a => some a
  | other _ => none

namespace Subject

/-- The tree of a source: the one that is handed over, else what the source is read as. A faulty
source has none. -/
def tree? (s : Subject) (given : Option Source.Node) : Option Source.Node :=
  given.or (Source.treeOf s.source)

/-- A line by its number from one, without white space around it. -/
def line (s : Subject) (number : Int) : Text :=
  Text.strip (Source.lineAt s.source number)

/-- The lines with their numbers from one. -/
def numberedLines (s : Subject) : List (Nat × Text) :=
  (Text.lines s.source).zipIdx.map fun p => (p.2 + 1, p.1)

/-- What is found when every line is looked at on its own, by the path, its number and its text. -/
def scan (s : Subject) (look : Text → Nat → Text → List Issue) : List Issue :=
  s.numberedLines.flatMap fun p => look s.path p.1 p.2

end Subject

/-- An analyzer that looks at the tree of a source. In a faulty source it finds nothing. -/
def Analyzer.onTree (name description : Text)
    (look : Subject → Source.Node → Except Failure (List Issue)) : Analyzer where
  name := name
  description := description
  run subject given := match subject.tree? given with
    | some tree => look subject tree
    | none => .ok []

/-- The lines from one number on to another. Without an end there are at most `most` of them; an
end below zero counts from the last line. -/
def snippet (source : Text) (start : Int) (stop : Option Int) (most : Int) : Text :=
  let lines := Text.lines source
  let stop := stop.getD (min (start + most - 1) lines.length)
  Text.unlines (Text.slice lines (max 0 (start - 1)) (min lines.length stop))

end CodeReview
