import CodeReview.Json.Printer
import CodeReview.Report.Basic

/-!
Reports as JSON for other programs.
-/

namespace CodeReview.Report

structure Data where
  /-- How many blanks a level is indented by; none for a report on one line. -/
  indent : Option Nat := some 2
  /-- Whether the report says what made it, and when. -/
  origin : Bool := true
  deriving DecidableEq, Repr

namespace Data

def issue (i : Issue) : Except Failure Value := do
  return .object
    [("type".toList, .text i.type), ("severity".toList, .text (← i.severity.severity).toText),
      ("message".toList, .text i.message), ("file".toList, .text i.file),
      ("line".toList, .ofInt i.line), ("column".toList, .number i.column),
      ("code".toList, .text i.code), ("suggestion".toList, .text i.suggestion),
      ("rule".toList, .text i.rule), ("metadata".toList, .object i.metadata)]

/-- Some of the metrics, by their names. -/
def metrics (m : Option Metrics) (parts : Metrics → List (Text × Number)) : List (Text × Value) :=
  match m with
  | none => []
  | some m => [("metrics".toList, .object ((parts m).map fun p => (p.1, .number p.2)))]

def origins (d : Data) (now : Text) : List (Text × Value) :=
  if d.origin then
    [("_metadata".toList, .object
      [("generator".toList, .text "paila"), ("version".toList, .text "0.1.0"),
        ("timestamp".toList, .text now)])]
  else []

def file (d : Data) (now : Text) (r : FileResult) : Except Failure Value := do
  let issues ← r.issues.mapM issue
  return .object
    ([("file".toList, .text r.file), ("score".toList, .ofInt r.score),
      ("grade".toList, .text r.grade.letter), ("skipped".toList, .bool r.skipped),
      ("issue_count".toList, .ofNat r.issues.length), ("issues".toList, .list issues)]
      ++ metrics r.metrics (fun m =>
        [("lines_of_code", m.linesOfCode), ("total_lines", m.totalLines),
          ("blank_lines", m.blankLines), ("comment_lines", m.commentLines),
          ("functions", m.functions), ("classes", m.classes), ("avg_complexity", m.avgComplexity),
          ("max_complexity", m.maxComplexity)])
      ++ d.origins now)

/-- A file in the report about many. -/
def part (r : FileResult) : Except Failure Value := do
  let issues ← r.issues.mapM issue
  return .object
    ([("file".toList, .text r.file), ("issue_count".toList, .ofNat r.issues.length),
      ("issues".toList, .list issues)]
      ++ metrics r.metrics (fun m =>
        [("lines_of_code", m.linesOfCode), ("functions", m.functions), ("classes", m.classes),
          ("avg_complexity", m.avgComplexity)]))

def review (d : Data) (now : Text) (r : ReviewResult) : Except Failure Value := do
  let files ← r.reviewed.mapM part
  return .object
    ([("summary".toList, .object
        [("total_files".toList, .ofNat r.files.length),
          ("files_analyzed".toList, .ofNat r.reviewed.length),
          ("total_issues".toList, .ofInt r.totalIssues), ("score".toList, .ofInt r.score),
          ("grade".toList, .text r.grade.letter)]),
      ("issues_by_severity".toList, ReviewResult.counts r.bySeverity),
      ("issues_by_type".toList, ReviewResult.counts r.byType)]
      ++ metrics r.metrics (fun m =>
        [("lines_of_code", m.linesOfCode), ("total_lines", m.totalLines),
          ("functions", m.functions), ("classes", m.classes),
          ("avg_complexity", m.avgComplexity)])
      ++ [("files".toList, .list files)] ++ d.origins now)

def format (d : Data) (now : Text) : Outcome → Except Failure Text
  | .file r => return Json.print Json.ascii d.indent (← d.file now r)
  | .review r => return Json.print Json.ascii d.indent (← d.review now r)

end Data

end CodeReview.Report
