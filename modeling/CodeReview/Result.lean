import CodeReview.Issue
import CodeReview.Metrics

/-!
What a review gives: for one file, and for many.
-/

namespace CodeReview

inductive Grade where
  | a
  | b
  | c
  | d
  | f
  deriving DecidableEq, Repr, Inhabited

namespace Grade

def ofScore (score : Int) : Grade :=
  if 90 ≤ score then a
  else if 80 ≤ score then b
  else if 70 ≤ score then c
  else if 60 ≤ score then d
  else f

def letter : Grade → Text
  | a => "A"
  | b => "B"
  | c => "C"
  | d => "D"
  | f => "F"

end Grade

/-- A score lies between 0 and 100. -/
def clampScore (score : Int) : Int :=
  max 0 (min 100 score)

/-- The points that issues take off. -/
def deductions (issues : List Issue) : Int :=
  issues.foldr (fun i rest => i.severity.deduction + rest) 0

/-- The points that poor maintainability and high complexity take off. -/
def Metrics.deductions (m : Metrics) : Int :=
  (if m.maintainability.lt 50 then 10 else if m.maintainability.lt 65 then 5 else 0)
    + (if Number.lt 20 m.maxComplexity then 10 else if Number.lt 10 m.maxComplexity then 5 else 0)

/-- The score of some issues, and of metrics where they are known. -/
def scoreOf (issues : List Issue) (metrics : Option Metrics) : Int :=
  clampScore (100 - deductions issues - ((metrics.map Metrics.deductions).getD 0))

structure FileResult where
  file : Text
  issues : List Issue := []
  metrics : Option Metrics := none
  skipped : Bool := false
  error : Option Text := none
  deriving Inhabited

namespace FileResult

def score (r : FileResult) : Int :=
  clampScore (100 - deductions r.issues)

def grade (r : FileResult) : Grade :=
  .ofScore r.score

/-- How many issues are of one level. -/
def countOf (r : FileResult) (s : Severity) : Nat :=
  r.issues.countP fun i => i.severity = .level s

def toValue (r : FileResult) : Value :=
  .object
    [("file".toList, .text r.file), ("score".toList, .ofInt r.score),
      ("grade".toList, .text r.grade.letter),
      ("issues".toList, .list (r.issues.map Issue.toValue)),
      ("metrics".toList, .ofOption Metrics.toValue r.metrics),
      ("skipped".toList, .bool r.skipped), ("error".toList, .ofOption .text r.error)]

end FileResult

structure ReviewResult where
  files : List FileResult := []
  totalIssues : Int := 0
  /-- How many issues there are of each severity, in the order of first appearance. -/
  bySeverity : Entries Int := []
  byType : Entries Int := []
  byFile : Entries (List Issue) := []
  metrics : Option Metrics := none
  timestamp : Text
  duration : Number := .real 0.0
  deriving Inhabited

namespace ReviewResult

/-- The points for a count of issues of a severity given by its name. -/
def deductionFor (count : Text × Int) : Int :=
  (Rating.ofText count.1).deduction * count.2

def score (r : ReviewResult) : Int :=
  clampScore (100 - r.bySeverity.foldr (fun e rest => deductionFor e + rest) 0)

def grade (r : ReviewResult) : Grade :=
  .ofScore r.score

def countOf (r : ReviewResult) (s : Severity) : Int :=
  (r.bySeverity.get? s.toText).getD 0

/-- All issues, file by file. -/
def issues (r : ReviewResult) : List Issue :=
  r.files.flatMap (·.issues)

/-- The files that were looked at. -/
def reviewed (r : ReviewResult) : List FileResult :=
  r.files.filter fun f => !f.skipped

def counts (es : Entries Int) : Value :=
  .object (es.map fun e => (e.1, .ofInt e.2))

def toValue (r : ReviewResult) : Value :=
  .object
    [("score".toList, .ofInt r.score), ("grade".toList, .text r.grade.letter),
      ("timestamp".toList, .text r.timestamp), ("duration_seconds".toList, .number r.duration),
      ("total_issues".toList, .ofInt r.totalIssues),
      ("issues_by_severity".toList, counts r.bySeverity),
      ("issues_by_type".toList, counts r.byType),
      ("metrics".toList, .ofOption Metrics.toValue r.metrics),
      ("files".toList, .list (r.files.map FileResult.toValue))]

/-- A few lines for people. -/
def summary (r : ReviewResult) : Text :=
  let rule := Text.repeated 60 '='
  let level (s : Severity) : Text :=
    "    " ++ s.emoji ++ " " ++ s.title ++ ": " ++ Text.ofInt (r.countOf s)
  let metrics : List Text := match r.metrics with
    | none => []
    | some m =>
      [[], "  Metrics:", "    Lines of code:    " ++ m.linesOfCode.toText,
        "    Avg complexity:   " ++ m.avgComplexity.fixed 1]
  Text.unlines
    ([rule, "              PAILA CODE REVIEW REPORT", rule, [],
      "  Score: " ++ Text.ofInt r.score ++ "/100 (Grade: " ++ r.grade.letter ++ ")",
      "  Files reviewed: " ++ Text.ofNat r.reviewed.length,
      "  Total issues: " ++ Text.ofInt r.totalIssues, [], "  Issue breakdown:"]
      ++ Severity.all.map level ++ metrics ++ [[], rule])

end ReviewResult

/-- What a review of a path gives. -/
inductive Outcome where
  | file (r : FileResult)
  | review (r : ReviewResult)
  deriving Inhabited

namespace Outcome

/-- The review of one file, from which `member` is wanted. -/
def ofOne (o : Outcome) (member : Text) : Except Failure FileResult :=
  match o with
  | file r => .ok r
  | review _ => .error (.missingMember "ReviewResult" member)

/-- The review of many files, from which `member` is wanted. -/
def ofMany (o : Outcome) (member : Text) : Except Failure ReviewResult :=
  match o with
  | file _ => .error (.missingMember "FileResult" member)
  | review r => .ok r

end Outcome

end CodeReview
