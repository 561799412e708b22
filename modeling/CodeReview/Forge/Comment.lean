import CodeReview.Result
import CodeReview.Text.Case

/-!
What is said about a review where changes are discussed: one comment about the whole, and comments
at the lines of single issues.
-/

namespace CodeReview.Forge

/-- Issues from the most severe on. All of them have to have a severity that is known. -/
def ranked (issues : List Issue) : Except Failure (List Issue) := do
  let _ ← issues.mapM fun i => i.severity.severity
  return bySeverity issues

/-- How many issues the comment about the whole shows. -/
def shownIssues : Nat := 10

def severityTable (r : ReviewResult) : List Text :=
  if r.bySeverity.isEmpty then []
  else
    let rows := Severity.all.filterMap fun s =>
      if 0 < r.countOf s then
        some ("| " ++ s.title ++ " | " ++ Text.ofInt (r.countOf s) ++ " |" : Text)
      else none
    List.flatten
      [["### Issues by Severity", [], "| Severity | Count |", "|----------|-------|"], rows, [[]]]

/-- An issue in one line. -/
def issueRow (i : Issue) : Text :=
  "- **[" ++ Text.upper i.severity.toText ++ "]** " ++ i.message ++ " (`" ++ i.file ++ ":"
    ++ Text.ofInt i.line ++ "`)"

/-- The section about some issues, with how many more there are. -/
def topSection (issues : List Issue) (more : Nat) : List Text :=
  List.flatten
    [["### Top Issues", []], issues.map issueRow,
      if more = 0 then [] else ["- ... and " ++ Text.ofNat more ++ " more"], [[]]]

def topIssues (r : ReviewResult) : Except Failure (List Text) := do
  let issues ← ranked r.issues
  if issues.isEmpty then return []
  return topSection (issues.take shownIssues) (issues.length - shownIssues)

def heading (r : ReviewResult) : List Text :=
  ["## 🔍 Paila Code Review",
    [],
    "**Score:** " ++ Text.ofInt r.score ++ "/100 (Grade: **" ++ r.grade.letter ++ "**)",
    "**Issues Found:** " ++ Text.ofInt r.totalIssues,
    []]

def closing : List Text :=
  ["---", "*Generated by [Paila SDK](https://github.com/saikrishnapaila/paila)*"]

/-- The comment about a whole review. -/
def summary (r : ReviewResult) (details : Bool) : Except Failure Text := do
  let issues ← if details then topIssues r else pure []
  return Text.sections [heading r, severityTable r, issues, closing]

/-- The comment about one issue. -/
def inlineComment (i : Issue) : Except Failure Text := do
  let s ← i.severity.severity
  let code : List Text := if i.code.isEmpty then [] else ["```python", i.code, "```", []]
  let suggestion : List Text :=
    if i.suggestion.isEmpty then [] else ["💡 **Suggestion:** " ++ i.suggestion]
  let rule : List Text := if i.rule.isEmpty then [] else ["📋 Rule: `" ++ i.rule ++ "`"]
  return Text.sections
    [["**[" ++ Text.upper s.toText ++ "]** " ++ i.message, []], code, suggestion, rule]

/-- The issues that get a comment of their own. -/
def serious (r : ReviewResult) : Except Failure (List Issue) :=
  r.issues.filterM fun i => do
    let s ← i.severity.severity
    return s = .critical || s = .high

/-- At how many lines a review comments at most. -/
def maxInline : Nat := 20

/-- Whether a change with such a review should not be taken in. -/
def blocks (r : ReviewResult) : Bool :=
  0 < r.countOf .critical || 0 < r.countOf .high

end CodeReview.Forge
