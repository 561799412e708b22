import CodeReview.Report.Basic

/-!
Reports for a terminal, with colours and icons where they are wanted.
-/

namespace CodeReview.Report

inductive Color where
  | bold
  | dim
  | red
  | green
  | yellow
  | blue
  | magenta
  | cyan
  | white
  deriving DecidableEq, Repr

namespace Color

/-- The sequence that switches a colour on. -/
def code : Color → Text
  | bold => "\x1b[1m"
  | dim => "\x1b[2m"
  | red => "\x1b[91m"
  | green => "\x1b[92m"
  | yellow => "\x1b[93m"
  | blue => "\x1b[94m"
  | magenta => "\x1b[95m"
  | cyan => "\x1b[96m"
  | white => "\x1b[97m"

/-- The sequence that switches all colours off. -/
def reset : Text :=
  "\x1b[0m"

def ofRating : Rating → Color
  | .level .critical | .level .high => red
  | .level .medium => yellow
  | .level .low => cyan
  | .level .info => dim
  | .other _ => white

def ofScore (score : Int) : Color :=
  if 80 ≤ score then green else if 60 ≤ score then yellow else red

end Color

structure Terminal where
  colors : Bool := true
  icons : Bool := true
  deriving DecidableEq, Repr

namespace Terminal

def paint (t : Terminal) (color : Color) (text : Text) : Text :=
  if t.colors then color.code ++ text ++ Color.reset else text

/-- An icon for a severity, or its name in brackets. -/
def icon (t : Terminal) (r : Rating) : Except Failure Text :=
  if t.icons then
    .ok (match r with
      | .level .critical => "🚨"
      | .level .high => "❌"
      | .level .medium => "⚠️ "
      | .level .low => "💡"
      | .level .info => "ℹ️ "
      | .other _ => "•")
  else do
    return "[" ++ (← r.severity).toText.map Char.toUpper ++ "]"

/-- An issue in two lines. -/
def brief (t : Terminal) (i : Issue) : Except Failure (List Text) := do
  let icon ← t.icon i.severity
  return [
    "  " ++ icon ++ " " ++ t.paint (.ofRating i.severity) (i.message.take 50),
    t.paint .dim ("     └─ " ++ i.file ++ ":" ++ Text.ofInt i.line)]

/-- Code, or its start if it is long. -/
def preview (code : Text) : Text :=
  if 60 < code.length then code.take 60 ++ "..." else code

/-- A line with a text that an issue may lack. -/
def optional (t : Terminal) (color : Color) (lead text : Text) : List Text :=
  if text.isEmpty then [] else [t.paint color ("     " ++ lead ++ text)]

/-- An issue with all that is known about it. -/
def full (t : Terminal) (i : Issue) : Except Failure (List Text) := do
  let icon ← t.icon i.severity
  let name ← shout i
  return List.flatten
    [[[], "  " ++ icon ++ " " ++ t.paint (.ofRating i.severity) name ++ ": " ++ i.message,
        t.paint .dim ("     Location: " ++ i.file ++ ":" ++ Text.ofInt i.line)],
      t.optional .dim "Code: " (preview i.code), t.optional .cyan "💡 " i.suggestion,
      t.optional .dim "Rule: " i.rule]

def metrics (t : Terminal) (m : Metrics) : List Text :=
  List.flatten
    [[[], t.paint .bold "📊 Metrics:", "  Lines of code: " ++ m.linesOfCode.toText,
        "  Functions: " ++ m.functions.toText, "  Classes: " ++ m.classes.toText],
      if Number.lt 0 m.avgComplexity then ["  Avg complexity: " ++ m.avgComplexity.toText] else []]

def header (t : Terminal) (file : Text) : List Text :=
  let rule := t.paint .dim (Text.repeated 60 '=')
  [rule, t.paint .bold ("📁 " ++ file), rule]

/-- All issues of a file. -/
def found (t : Terminal) (issues : List Issue) : Except Failure (List Text) := do
  if issues.isEmpty then return [t.paint .green "  ✅ No issues found!"]
  let entries ← issues.mapM t.full
  return ("  Found " ++ Text.ofNat issues.length ++ " issue(s)") :: [] :: entries.flatten

def file (t : Terminal) (r : FileResult) : Except Failure Text := do
  if r.skipped then return Text.sections [t.header r.file, [t.paint .dim "  Skipped"]]
  return Text.sections
    [t.header r.file, ← t.found r.issues, (r.metrics.map t.metrics).getD []]

/-- A heading with a rule below it. -/
def heading (t : Terminal) (title : Text) : List Text :=
  [t.paint .bold title, t.paint .dim (Text.repeated 40 '-')]

def summary (t : Terminal) (r : ReviewResult) : List Text :=
  let color := Color.ofScore r.score
  let code : Option Text := r.metrics.map fun m => "  Lines of code: " ++ m.linesOfCode.toText
  List.flatten
    [t.heading "📋 SUMMARY",
      ["  Files analyzed: " ++ Text.ofNat r.reviewed.length,
        "  Total issues: " ++ Text.ofInt r.totalIssues],
      code.toList,
      [[], "  Score: " ++ t.paint color (Text.ofInt r.score ++ "/100") ++ " (Grade: "
        ++ t.paint color r.grade.letter ++ ")"]]

/-- A level with how many issues are of it. -/
def levelRow (t : Terminal) (e : Severity × Int) : Except Failure Text := do
  let icon ← t.icon (.level e.1)
  return "  " ++ icon ++ " " ++ t.paint (.ofRating (.level e.1)) (e.1.toText.map Char.toUpper)
    ++ ": " ++ Text.ofInt e.2

def severities (t : Terminal) (r : ReviewResult) : Except Failure (List Text) := do
  if r.bySeverity.isEmpty then return []
  let rows ← (levels r).mapM t.levelRow
  return [] :: t.heading "🎯 ISSUES BY SEVERITY" ++ rows

/-- The section about some types of issues. -/
def typeSection (t : Terminal) (counts : Entries Int) : List Text :=
  [] :: t.heading "📂 ISSUES BY TYPE"
    ++ counts.map fun e => "  • " ++ e.1 ++ ": " ++ Text.ofInt e.2

/-- The counts of issues by type, unless there are more than ten types. -/
def types (t : Terminal) (r : ReviewResult) : List Text :=
  if r.byType.isEmpty || 10 < r.byType.length then []
  else t.typeSection ((byCount r.byType).take 10)

/-- The first ten files with issues. -/
def files (t : Terminal) (r : ReviewResult) : List Text :=
  let fs := withIssues r
  if fs.isEmpty then []
  else List.flatten
    [[[]], t.heading "📁 FILES WITH ISSUES",
      (fs.take 10).map fun f =>
        "  • " ++ f.file ++ ": " ++ Text.ofNat f.issues.length ++ " issue(s)",
      if 10 < fs.length then ["  ... and " ++ Text.ofNat (fs.length - 10) ++ " more files"] else []]

/-- The issues that are listed: the worst five. -/
def topIssues (r : ReviewResult) : List Issue :=
  (bySeverity r.issues).take 5

/-- The section about some issues, with how many more there are. -/
def topSection (t : Terminal) (issues : List (List Text)) (more : Nat) : List Text :=
  List.flatten
    [[[]], t.heading "🔍 TOP ISSUES", issues.flatten,
      if more = 0 then [] else ["\n  ... and " ++ Text.ofNat more ++ " more issues"]]

def top (t : Terminal) (r : ReviewResult) : Except Failure (List Text) := do
  if r.issues.isEmpty then return []
  return t.topSection (← (topIssues r).mapM t.brief) (r.issues.length - 5)

/-- The name of the report in a box. -/
def banner (t : Terminal) : List Text :=
  let wide := Text.repeated 58 '═'
  let blanks := Text.repeated 16 ' '
  [[], t.paint .cyan ("╔" ++ wide ++ "╗"),
    t.paint .cyan ("║" ++ blanks ++ "  PAILA CODE REVIEW REPORT" ++ blanks ++ "║"),
    t.paint .cyan ("╚" ++ wide ++ "╝"), []]

def closing (t : Terminal) : List Text :=
  [[], t.paint .dim (Text.repeated 60 '─'),
    t.paint .dim "  Generated by Paila SDK • https://github.com/saikrishnapaila/paila", []]

def review (t : Terminal) (r : ReviewResult) : Except Failure Text := do
  let severities ← t.severities r
  let top ← t.top r
  return Text.sections
    [t.banner, t.summary r, severities, t.types r, t.files r, top, t.closing]

def format (t : Terminal) : Outcome → Except Failure Text
  | .file r => t.file r
  | .review r => t.review r

end Terminal

end CodeReview.Report
