import CodeReview.Report.Basic

/-!
Reports in Markdown.
-/

namespace CodeReview.Report

structure Markdown where
  badges : Bool := true
  /-- Whether a report about many files starts with a list of its parts. -/
  contents : Bool := false
  deriving DecidableEq, Repr

namespace Markdown

def badge : Rating → Text
  | .level .critical => "![Critical](https://img.shields.io/badge/-Critical-red)"
  | .level .high => "![High](https://img.shields.io/badge/-High-orange)"
  | .level .medium => "![Medium](https://img.shields.io/badge/-Medium-yellow)"
  | .level .low => "![Low](https://img.shields.io/badge/-Low-blue)"
  | .level .info => "![Info](https://img.shields.io/badge/-Info-lightgrey)"
  | .other _ => []

def title (o : Markdown) (i : Issue) : Except Failure Text := do
  if o.badges then return "#### " ++ badge i.severity ++ " " ++ i.message
  return "#### [" ++ (← shout i) ++ "] " ++ i.message

def issue (o : Markdown) (i : Issue) : Except Failure (List Text) := do
  return List.flatten
    [[← o.title i, [],
        "- **Location:** `" ++ i.file ++ ":" ++ Text.ofInt i.line ++ ":" ++ i.column.toText ++ "`",
        "- **Rule:** `" ++ i.rule ++ "`"],
      if i.code.isEmpty then [] else [[], "```python", i.code, "```"],
      if i.suggestion.isEmpty then [] else [[], "> 💡 **Suggestion:** " ++ i.suggestion],
      [[]]]

def file (o : Markdown) (r : FileResult) : Except Failure Text := do
  let title : List Text := ["# Code Review: " ++ r.file, []]
  if r.skipped then return Text.sections [title, ["*File was skipped*"]]
  let issues ← r.issues.mapM o.issue
  let metrics : List Text := match r.metrics with
    | none => []
    | some m => List.flatten
      [["- **Lines of code:** " ++ m.linesOfCode.toText, "- **Functions:** " ++ m.functions.toText,
          "- **Classes:** " ++ m.classes.toText],
        if Number.lt 0 m.avgComplexity then
          ["- **Average complexity:** " ++ m.avgComplexity.toText]
        else []]
  return Text.sections
    [title, ["## Summary", [], "- **Issues found:** " ++ Text.ofNat r.issues.length], metrics, [[]],
      if r.issues.isEmpty then [] else ["## Issues", []], issues.flatten]

/-- A row of a table. -/
def row (cells : List Text) : Text :=
  "| " ++ Text.join " | " cells ++ " |"

/-- A section with a table. -/
def table (title head rule : Text) (rows : List (List Text)) : List Text :=
  List.flatten [["## " ++ title, [], head, rule], rows.map row, [[]]]

def summary (r : ReviewResult) : List Text :=
  let metrics : List (List Text) := match r.metrics with
    | none => []
    | some m => List.flatten
      [[["Lines of Code", m.linesOfCode.toText], ["Functions", m.functions.toText],
          ["Classes", m.classes.toText]],
        if Number.lt 0 m.avgComplexity then [["Avg Complexity", m.avgComplexity.toText]] else []]
  table "Summary" "| Metric | Value |" "|--------|-------|" (List.flatten
    [[["Files Analyzed", Text.ofNat r.reviewed.length],
        ["Total Issues", Text.ofInt r.totalIssues]], metrics])

/-- Ten marks, as many of them filled as the score has tens. -/
def scoreBar (score : Int) : Text :=
  let filled := score.toNat / 10
  Text.repeated filled '█' ++ Text.repeated (10 - filled) '░'

def score (r : ReviewResult) : List Text :=
  ["## Score", [],
    "**" ++ Text.ofInt r.score ++ "/100** (Grade: **" ++ r.grade.letter ++ "**)", [],
    "`" ++ scoreBar r.score ++ "`", []]

def severities (o : Markdown) (r : ReviewResult) : List Text :=
  if r.bySeverity.isEmpty then []
  else table "Issues by Severity" "| Severity | Count |" "|----------|-------|"
    ((levels r).map fun (s, count) =>
      [if o.badges then badge (.level s) ++ " " ++ s.title else s.title, Text.ofInt count])

def types (r : ReviewResult) : List Text :=
  if r.byType.isEmpty then []
  else table "Issues by Type" "| Type | Count |" "|------|-------|"
    ((byCount r.byType).map fun (type, count) => ["`" ++ type ++ "`", Text.ofInt count])

def files (r : ReviewResult) : List Text :=
  if (withIssues r).isEmpty then []
  else table "Files" "| File | Issues |" "|------|--------|"
    ((withIssues r).map fun f => ["`" ++ f.file ++ "`", Text.ofNat f.issues.length])

/-- A heading for a file, with the lines about its issues. -/
def group (file : Text) (issues : List (List Text)) : List Text :=
  ["### 📁 " ++ file, []] ++ issues.flatten

/-- All issues under headings for their files. -/
def details (o : Markdown) (r : ReviewResult) : Except Failure (List Text) := do
  if r.issues.isEmpty then return []
  let parts ← (byFile r.issues).mapM fun g => return group g.1 (← g.2.mapM o.issue)
  return "## Detailed Issues" :: [] :: parts.flatten

def contentsList : List Text :=
  ["## Table of Contents", [], "- [Summary](#summary)", "- [Score](#score)",
    "- [Issues by Severity](#issues-by-severity)", "- [Issues by Type](#issues-by-type)",
    "- [Files](#files)", "- [Detailed Issues](#detailed-issues)", []]

/-- What a report says before the details. -/
def overview (o : Markdown) (now : Text) (r : ReviewResult) : List Text :=
  List.flatten
    [["# 📋 Paila Code Review Report", [], "*Generated on " ++ dayAndTime now ++ "*", []],
      if o.contents then contentsList else [], summary r, score r, o.severities r, types r, files r]

def closing : List Text :=
  ["---", [],
    ("*Generated by [Paila SDK](https://github.com/saikrishnapaila/paila)"
      ++ " - AI-Powered Code Review*" : String)]

def review (o : Markdown) (now : Text) (r : ReviewResult) : Except Failure Text := do
  return Text.sections [o.overview now r, ← o.details r, closing]

def format (o : Markdown) (now : Text) : Outcome → Except Failure Text
  | .file r => o.file r
  | .review r => o.review now r

end Markdown

end CodeReview.Report
