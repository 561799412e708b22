import CodeReview.Failure
import CodeReview.Value

/-!
Numbers that describe a source file or a project.
-/

namespace CodeReview

structure Metrics where
  linesOfCode : Number := 0
  totalLines : Number := 0
  blankLines : Number := 0
  commentLines : Number := 0
  functions : Number := 0
  classes : Number := 0
  avgComplexity : Number := .real 0.0
  maxComplexity : Number := 0
  maintainability : Number := .real 100.0
  commentRatio : Number := .real 0.0
  duplication : Number := .real 0.0
  deriving Inhabited

namespace Metrics

/-- All numbers, as they are. -/
def numbers (m : Metrics) : List (String × Number) :=
  [("lines_of_code", m.linesOfCode), ("total_lines", m.totalLines), ("blank_lines", m.blankLines),
    ("comment_lines", m.commentLines), ("functions", m.functions), ("classes", m.classes),
    ("avg_complexity", m.avgComplexity), ("max_complexity", m.maxComplexity),
    ("maintainability_index", m.maintainability), ("comment_ratio", m.commentRatio),
    ("duplication_ratio", m.duplication)]

/-- Averages and ratios are shown with two decimal places. -/
def toValue (m : Metrics) : Value :=
  .object
    [("lines_of_code".toList, .number m.linesOfCode), ("total_lines".toList, .number m.totalLines),
      ("blank_lines".toList, .number m.blankLines),
      ("comment_lines".toList, .number m.commentLines),
      ("functions".toList, .number m.functions), ("classes".toList, .number m.classes),
      ("avg_complexity".toList, .number (m.avgComplexity.roundTo 2)),
      ("max_complexity".toList, .number m.maxComplexity),
      ("maintainability_index".toList, .number (m.maintainability.roundTo 2)),
      ("comment_ratio".toList, .number (m.commentRatio.roundTo 2)),
      ("duplication_ratio".toList, .number (m.duplication.roundTo 2))]

def parts : List Text :=
  List.map String.toList
    ["lines_of_code", "total_lines", "blank_lines", "comment_lines", "functions", "classes",
      "avg_complexity", "max_complexity", "maintainability_index", "comment_ratio",
      "duplication_ratio"]

/-- Metrics with named parts; those that are not given have their defaults. -/
def ofFields (fields : List (Text × Value)) : Except Failure Metrics := do
  match fields.find? fun f => !parts.contains f.1 with
  | some f => .error (.unexpectedPart "Metrics" f.1)
  | none => pure ()
  let number (name : String) (default : Number) : Number :=
    ((Entries.get? fields name).bind Value.number?).getD default
  let zero : Metrics := {}
  return {
    linesOfCode := number "lines_of_code" zero.linesOfCode
    totalLines := number "total_lines" zero.totalLines
    blankLines := number "blank_lines" zero.blankLines
    commentLines := number "comment_lines" zero.commentLines
    functions := number "functions" zero.functions
    classes := number "classes" zero.classes
    avgComplexity := number "avg_complexity" zero.avgComplexity
    maxComplexity := number "max_complexity" zero.maxComplexity
    maintainability := number "maintainability_index" zero.maintainability
    commentRatio := number "comment_ratio" zero.commentRatio
    duplication := number "duplication_ratio" zero.duplication }

end Metrics

end CodeReview
