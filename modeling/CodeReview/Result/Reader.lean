import CodeReview.Result

/-!
Results of reviews read from values.
-/

namespace CodeReview

/-- Metrics, where there are any. -/
def Metrics.ofValue? (v : Value) : Except Failure (Option Metrics) :=
  match v with
  | .object fields => return some (← Metrics.ofFields fields)
  | _ => return none

namespace Value

def fieldOr (v : Value) (name : Text) (default : Value) : Value :=
  (v.field? name).getD default

def textField (v : Value) (name : Text) : Text :=
  ((v.field? name).bind text?).getD []

def listField (v : Value) (name : Text) : List Value :=
  ((v.field? name).bind list?).getD []

/-- Pairs of names and counts. -/
def countsField (v : Value) (name : Text) : Entries Int :=
  .ofPairs ((v.listField name).filterMap fun p =>
    match p with
    | .list [.text k, .number (.int n)] => some (k, n)
    | _ => none)

end Value

def FileResult.ofValue (v : Value) : Except Failure FileResult := do
  return {
    file := v.textField "file"
    issues := ← (v.listField "issues").mapM fun i => Issue.ofFields (i.fields?.getD [])
    metrics := ← Metrics.ofValue? (v.fieldOr "metrics" .null)
    skipped := (v.fieldOr "skipped" .null).holds
    error := (v.field? "error").bind Value.text? }

/-- A review of many files; one that does not tell its time is of this moment. -/
def ReviewResult.ofValue (now : Text) (v : Value) : Except Failure ReviewResult := do
  return {
    files := ← (v.listField "files").mapM FileResult.ofValue
    totalIssues := ((v.field? "total_issues").bind Value.int?).getD 0
    bySeverity := v.countsField "issues_by_severity"
    byType := v.countsField "issues_by_type"
    metrics := ← Metrics.ofValue? (v.fieldOr "metrics" .null)
    timestamp := ((v.field? "timestamp").bind Value.text?).getD now
    duration := ((v.field? "duration_seconds").bind Value.number?).getD (.real 0.0) }

end CodeReview
