import CodeReview.Analysis.Complexity
import CodeReview.Analysis.Smells
import CodeReview.Result
import CodeReview.Settings.Reader

/-!
Reviews of sources: all analyzers that are switched on look at a source, and what they find is
kept if it is bad enough. The results of many files are put together.
-/

namespace CodeReview

/-- The settings of a review and the analyzers that take part. -/
structure Reviewer where
  settings : Settings
  analyzers : List Analyzer

/-- What a review gives and what it says on the way. -/
structure Reviewed (α : Type) where
  result : α
  messages : List Text

namespace Reviewer

/-- The analyzers that come with this library. -/
def builtin (s : Settings) : List Analyzer :=
  [Analysis.complexity s, Analysis.security, Analysis.smells]

/-- A reviewer with the analyzers that the settings name, and some more. Whatever is handed over
and is no analyzer is left out. -/
def new (s : Settings) (custom : List Plugin) : Except Failure Reviewer := do
  let chosen ← (builtin s).filterM fun a => s.analyzers.lists a.name
  return { settings := s, analyzers := chosen ++ custom.filterMap Plugin.analyzer? }

/-- A reviewer for a quick review, with named values for its settings. -/
def quick (env : Environment) (fields : List (Text × Value)) : Except Failure Reviewer := do
  new (← Settings.quick env fields) []

def names (r : Reviewer) : List Text :=
  r.analyzers.map (·.name)

def describe (r : Reviewer) : Text :=
  "Reviewer(analyzers=[" ++ Text.join ", " (r.names.map Text.quoted) ++ "])"

/-- The issues that are bad enough. A minimum that is no severity in lower case keeps all. -/
def keep (s : Settings) (issues : List Issue) : List Issue :=
  let least := (Rating.ofText s.minSeverity).rank
  issues.filter fun i => i.severity.rank ≤ least

/-- What one analyzer adds. An analyzer that fails adds nothing; a talkative review says so. -/
def runOne (r : Reviewer) (subject : Subject) (tree : Option Source.Node) (a : Analyzer) :
    Reviewed (List Issue) :=
  match a.run subject tree with
  | .ok issues => { result := keep r.settings issues, messages := [] }
  | .error f =>
    { result := []
      messages :=
        if r.settings.verbose.holds then ["Warning: " ++ a.name ++ " failed: " ++ f.message]
        else [] }

/-- Reviews a source. -/
def reviewSource (r : Reviewer) (source path : Text) : Reviewed FileResult :=
  let subject : Subject := { path := path, source := source }
  let tree := Source.treeOf source
  let found := r.analyzers.map (r.runOne subject tree)
  { result :=
      { file := path
        issues := found.flatMap (·.result)
        metrics := some (Analysis.measure false source tree) }
    messages := found.flatMap (·.messages) }

/-- Reviews a source that stands in no file, with named values for the settings. -/
def reviewQuickly (env : Environment) (fields : List (Text × Value)) (source : Text) :
    Except Failure (Reviewed FileResult) := do
  return (← quick env fields).reviewSource source "<string>"

/-- The files that count in a summary. -/
def counted (files : List FileResult) : List FileResult :=
  files.filter fun f => !f.skipped

/-- The average over the files that have functions, with two decimal places. -/
def averageOf (xs : List Number) : Number :=
  if xs.isEmpty then 0 else (Number.real ((Number.sum xs).divNat xs.length)).roundTo 2

/-- The issues of the files that count. -/
def found (files : List FileResult) : List Issue :=
  (counted files).flatMap (·.issues)

/-- The metrics of the files that count and have any. -/
def measured (files : List FileResult) : List Metrics :=
  (counted files).filterMap (·.metrics)

/-- What the results of files come to together. -/
def summary (now : Text) (files : List FileResult) : ReviewResult :=
  let sum (f : Metrics → Number) : Number := Number.sum ((measured files).map f)
  { files := files
    totalIssues := (found files).length
    bySeverity := .tally ((found files).map (·.severity.toText))
    byType := .tally ((found files).map (·.type))
    byFile := .ofPairs ((counted files).map fun f => (f.file, f.issues))
    metrics := some
      { linesOfCode := sum (·.linesOfCode)
        totalLines := sum (·.totalLines)
        functions := sum (·.functions)
        classes := sum (·.classes)
        avgComplexity :=
          averageOf (((measured files).map (·.avgComplexity)).filter (Number.lt 0)) }
    timestamp := now }

/-- Puts the results of files together. Issues are counted by level, so each needs one. -/
def aggregate (now : Text) (files : List FileResult) : Except Failure ReviewResult := do
  let _ ← (found files).mapM fun i => i.severity.severity
  return summary now files

end Reviewer

end CodeReview
