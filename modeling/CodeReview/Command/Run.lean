import CodeReview.Command.Usage
import CodeReview.Report.Reporter
import CodeReview.Review.Paths

/-!
The commands: to review, to check whether a review finds something bad enough, and to write a first
file of settings.
-/

namespace CodeReview.Command

/-- What the command line asks for. -/
inductive Request where
  | help
  | review (path : Text) (options : Entries Text)
  | check (path : Text) (failOn : Text)
  | init
  deriving DecidableEq, Repr

namespace Request

/-- The request of the arguments of a command, and the arguments that it does not know. -/
def ofCommand (name : Text) (args : List Text) : Except Stop (Request × List Text) := do
  if name = "review" then
    let p ← Command.review.read args
    return (.review ((p.operands.getD []).headD []) p.values, p.unknown)
  else if name = "check" then
    let p ← Command.check.read args
    return (.check ((p.operands.getD []).headD []) ((p.values.get? "fail-on").getD "high"),
      p.unknown)
  else
    let p ← Command.init.read args
    return (.init, p.unknown)

/-- Reads all arguments. One that nothing knows ends the program. -/
def read (args : List Text) : Except Stop Request := do
  let p ← general.read args
  let (request, unknown) ← match p.operands with
    | some (name :: rest) => ofCommand name rest
    | _ => pure (Request.help, [])
  let unknown := p.unknown ++ unknown
  if unknown.isEmpty then return request
  else general.stopAt ("unrecognized arguments: " ++ Text.join " " unknown)

end Request

/-- What is left when the program ends. -/
structure Finished where
  code : Nat
  out : Text
  err : Text := []
  disk : Disk

/-- An end with lines that are shown. -/
def finish (disk : Disk) (code : Nat) (lines : List Text) : Finished :=
  { code := code, out := lines.flatMap fun l => l ++ ['\n'], disk := disk }

def settingsOf (options : Entries Text) : Settings :=
  let base :=
    if options.has "strict" then Settings.strict
    else if options.has "relaxed" then Settings.relaxed
    else if options.has "security-only" then Settings.securityOnly
    else Settings.standard
  let named := (options.get? "analyzers").getD []
  { base with
    analyzers := if named.isEmpty then base.analyzers else .proper (Text.split named ",")
    minSeverity := (options.get? "min-severity").getD "info"
    aiEnabled := if options.has "ai" then .proper true else base.aiEnabled }

/-- Reports in a format; in the format for terminals if there is no such format. -/
def reporterOf (format : Text) : Report.Reporter :=
  if format = "json" then .data {}
  else if format = "markdown" then .markdown {}
  else if format = "html" then .page
  else .terminal {}

/-- Reviews a file, or a directory with all that is in it. -/
def reviewAt (r : Reviewer) (now : Text) (disk : Disk) (p : Path) (parallel : Bool) :
    Except Failure (Reviewed Outcome) := do
  if disk.isFile p then
    let x ← r.reviewFile disk p p.toText
    return { result := .file x.result, messages := x.messages }
  else
    let x ← r.reviewDirectory now disk p p.toText { parallel := parallel }
    return { result := .review x.result, messages := x.messages }

def notFound (disk : Disk) (path : Text) : Finished :=
  finish disk 1 ["Error: Path not found: " ++ path]

/-- The number of issues of a review, as it counts them itself. -/
def issueCount : Outcome → Int
  | .file f => f.issues.length
  | .review r => r.totalIssues

def issuesOf : Outcome → List Issue
  | .file f => f.issues
  | .review r => r.files.flatMap (·.issues)

/-- Reviews and reports. The code tells whether there is any issue. -/
def runReview (now : Text) (disk : Disk) (path : Text) (options : Entries Text) :
    Except Failure Finished := do
  let p := Path.ofText path
  if !disk.has p then return notFound disk path
  let r ← Reviewer.new (settingsOf options) []
  let start : List Text := ["Reviewing: " ++ p.toText, []]
  match reviewAt r now disk p (!options.has "no-parallel") with
  | .error f => return finish disk 1 (start ++ ["Error: " ++ f.message])
  | .ok reviewed =>
    let report ←
      (reporterOf ((options.get? "format").getD "terminal")).format now reviewed.result
    let code := if issueCount reviewed.result = 0 then 0 else 1
    let start := start ++ reviewed.messages
    match (options.get? "output").getD [] with
    | [] => return finish disk code (start ++ [report])
    | output =>
      let disk ← disk.writeRaw output (Text.utf8 report)
      return finish disk code (start ++ ["Report written to: " ++ output])

/-- How many issues a failed check shows. -/
def shownIssues : Nat := 5

/-- The issues that are as bad as `failOn`, or worse. -/
def failing (failOn : Text) (issues : List Issue) : List Issue :=
  issues.filter fun i => i.severity.rank ≤ (Rating.ofText failOn).rank

/-- Checks that no issue is as bad as `failOn`. -/
def runCheck (now : Text) (disk : Disk) (path failOn : Text) : Except Failure Finished := do
  let p := Path.ofText path
  if !disk.has p then return notFound disk path
  let r ← Reviewer.new Settings.standard []
  match reviewAt r now disk p true with
  | .error f => return finish disk 1 ["Error: " ++ f.message]
  | .ok reviewed =>
    let failing := failing failOn (issuesOf reviewed.result)
    if failing.isEmpty then
      let passed : Text := "PASSED: No issues found at the specified severity level"
      return finish disk 0 (reviewed.messages ++ [passed])
    let lines := (failing.take shownIssues).map fun i =>
      ("  - [" ++ Text.upper i.severity.toText ++ "] " ++ i.message : Text)
    let more : List Text :=
      if shownIssues < failing.length then
        ["  ... and " ++ Text.ofNat (failing.length - shownIssues) ++ " more"]
      else []
    let title : Text :=
      "FAILED: " ++ Text.ofNat failing.length ++ " issue(s) at " ++ failOn ++ " or above"
    return finish disk 1 (reviewed.messages ++ [title] ++ lines ++ more)

/-- The file that settings are kept in. -/
def settingsFile : Text :=
  ".paila.toml"

def firstSettings : Text :=
  Text.unlines (List.map String.toList
    ["# Paila Configuration",
      "# See https://github.com/saikrishnapaila/paila for documentation",
      "",
      "[paila]",
      "# Analyzers to enable",
      "analyzers = [\"complexity\", \"security\", \"smells\"]",
      "",
      "# Minimum severity to report",
      "min_severity = \"info\"",
      "",
      "# Complexity thresholds",
      "max_complexity = 10",
      "max_nesting_depth = 4",
      "max_function_lines = 50",
      "max_parameters = 5",
      "max_line_length = 120",
      "max_file_lines = 500",
      "",
      "# Ignore patterns",
      "ignore_patterns = [",
      "    \"__pycache__\",",
      "    \".git\",",
      "    \"node_modules\",",
      "    \".venv\",",
      "    \"venv\",",
      "    \"dist\",",
      "    \"build\",",
      "]",
      "",
      "# AI settings (optional)",
      "# ai_enabled = false",
      "# ai_model = \"claude-sonnet-4-20250514\"",
      ""])

/-- Writes the first settings, unless there are settings. -/
def runInit (disk : Disk) : Except Failure Finished := do
  let p := Path.ofText settingsFile
  if disk.has p then
    return finish disk 1 ["Configuration file already exists: " ++ settingsFile]
  let disk ← disk.writeAs p settingsFile (Text.utf8 firstSettings)
  return finish disk 0
    ["Created: " ++ settingsFile, "Customize this file for your project settings."]

/-- Runs the program with some arguments at a moment. -/
def run (now : Text) (disk : Disk) (args : List Text) : Except Failure Finished :=
  match Request.read args with
  | .error s => .ok { code := s.code, out := s.out, err := s.err, disk := disk }
  | .ok .help => .ok (finish disk 0 [general.help])
  | .ok (.review path options) => runReview now disk path options
  | .ok (.check path failOn) => runCheck now disk path failOn
  | .ok .init => runInit disk

end CodeReview.Command
