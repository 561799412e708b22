import CodeReview.Result

/-!
What reports have in common: how counts and issues are arranged.
-/

namespace CodeReview.Report

/-- Counts, the largest first; equal counts stay in order. -/
def byCount (counts : Entries Int) : Entries Int :=
  counts.mergeSort fun a b => b.2 ≤ a.2

/-- Issues by the files that they are in, in the order in which the files first appear. -/
def byFile (issues : List Issue) : Entries (List Issue) :=
  issues.foldl (Entries.gather (·.file)) []

/-- The files with issues that were looked at. -/
def withIssues (r : ReviewResult) : List FileResult :=
  r.files.filter fun f => !f.issues.isEmpty && !f.skipped

/-- The levels that occur, with their counts. -/
def levels (r : ReviewResult) : List (Severity × Int) :=
  (Severity.all.map fun s => (s, r.countOf s)).filter fun p => 0 < p.2

/-- A moment to the second, with a blank between the day and the time. -/
def dayAndTime (moment : Text) : Text :=
  (moment.takeWhile (· ≠ '.')).map fun c => if c = 'T' then ' ' else c

/-- The level of an issue in capital letters. -/
def shout (i : Issue) : Except Failure Text := do
  return (← i.severity.severity).toText.map Char.toUpper

end CodeReview.Report
