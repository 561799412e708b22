import CodeReview.Report.Reporter
import CodeReview.Review
import CodeReview.SelfCheck.Basic
import CodeReview.Settings.File

/-!
Sheets about reviews: settings and results, analyzers, and reports.
-/

namespace CodeReview.SelfCheck

/-- A source with an issue of security. -/
def queryText : Text :=
  Text.unlines
    [[], "def get_user(id):", "    query = f\"SELECT * FROM users WHERE id = \x7bid\x7d\"",
      "    return query", []]

/-- The same with a secret in it. -/
def vulnerableText : Text :=
  Text.unlines
    [[], "def vulnerable(id):", "    query = f\"SELECT * FROM users WHERE id = \x7bid\x7d\"",
      "    password = \"secret123\"", "    return query", []]

/-- The settings, results and reviews that everything else is built on. -/
def core (now : Text) : Sheet := do
  let analyzers (s : Settings) : Text := (s.analyzers.value Value.texts).shown
  let reviewer ← Reviewer.new .standard []
  let _ ← Reviewer.new .strict []
  let simple := (reviewer.reviewSource "def foo(): pass" "<string>").result
  let query := (reviewer.reviewSource queryText "<string>").result
  let outcome (title : Text) (r : FileResult) : Text :=
    passed (title ++ " code: score=" ++ Text.ofInt r.score ++ ", issues="
      ++ Text.ofNat r.issues.length)
  let issue : Issue :=
    { type := "test", severity := .level .high, file := "test.py", line := 1
      message := "Test issue" }
  let metrics : Metrics := { linesOfCode := 100, functions := 5 }
  let file : FileResult := { file := "test.py", issues := [issue], metrics := some metrics }
  let review : ReviewResult :=
    { files := [file], totalIssues := 1, bySeverity := [("high".toList, 1)], timestamp := now }
  let graded (title : Text) (score : Int) (grade : Grade) : Text :=
    passed (title ++ ": score=" ++ Text.ofInt score ++ ", grade=" ++ grade.letter)
  return sheet "CORE MODULES"
    [["1. Testing imports...", passed "All core imports successful"],
      ["2. Testing Config...",
        passed ("Default config: analyzers=" ++ analyzers .standard),
        passed ("Strict config: max_complexity=" ++ Settings.strict.maxComplexity.inText),
        passed ("Relaxed config: max_complexity=" ++ Settings.relaxed.maxComplexity.inText),
        passed ("Security only: analyzers=" ++ analyzers .securityOnly)],
      ["3. Testing Reviewer...",
        passed ("Reviewer created: analyzers=" ++ (Value.texts reviewer.names).shown),
        passed "Strict Reviewer created"],
      ["4. Testing review_code...", outcome "Simple" simple, outcome "Vulnerable" query],
      ["5. Testing Models...",
        passed ("Issue created: " ++ issue.severity.toText),
        passed ("Metrics created: loc=" ++ metrics.linesOfCode.toText),
        graded "FileResult" file.score file.grade,
        graded "ReviewResult" review.score review.grade]]

/-- Short sources, each with one issue of security. -/
def securitySamples : List (Text × Text) :=
  [("SQL Injection (f-string)".toList, "query = f\"SELECT * FROM users WHERE id = \x7bid\x7d\""),
    ("SQL Injection (concat)".toList, "query = \"SELECT * FROM users WHERE id = \" + id"),
    ("Command Injection".toList, "os.system(\"ls \" + user_input)"),
    ("Hardcoded Password".toList, "password = \"secret123\""),
    ("Eval Usage".toList, "result = eval(user_input)"),
    ("Exec Usage".toList, "exec(code)"),
    ("Pickle Usage".toList, "data = pickle.loads(untrusted)")]

def complexText : Text :=
  Text.unlines
    [[], "def complex_function(a, b, c, d, e, f, g):", "    if a:", "        if b:",
      "            if c:", "                if d:", "                    if e:",
      "                        return 1", "    for i in range(10):",
      "        for j in range(10):", "            for k in range(10):", "                pass",
      "    return 0", []]

def smellyText : Text :=
  Text.unlines
    [[], "from os import *", [], "def no_docs(x):", "    magic = 42", "    result = x * 3.14159",
      "    try:", "        pass", "    except:", "        pass", "    # TODO: fix this",
      "    print(\"debug\")", "    return result", [], "def mutable_default(items=[]):",
      "    items.append(1)", "    return items", []]

/-- The analyzers, one after the other. -/
def analyzers : Sheet := do
  let run (a : Analyzer) (source : Text) : Except Failure (List Issue) :=
    a.run { path := "test.py", source := source } none
  let start (title : Text) (a : Analyzer) : List Text := [title, underline, "   Name: " ++ a.name]
  let security := Analysis.security
  let complexity := Analysis.complexity .standard
  let smells := Analysis.smells
  let samples ← securitySamples.mapM fun (name, source) => do
    let issues ← run security source
    let mark : Text := if issues.isEmpty then "✗" else "✓"
    return ("   " ++ mark ++ " " ++ name ++ ": " ++ Text.ofNat issues.length ++ " issues" : Text)
  let found ← run complexity complexText
  let smelled ← run smells smellyText
  return sheet "ANALYZERS"
    [start "1. SECURITY ANALYZER" security ++ samples,
      start "2. COMPLEXITY ANALYZER" complexity
        ++ passed ("Complex code detected: " ++ Text.ofNat found.length ++ " issues")
        :: found.map fun i => item (i.type ++ ": " ++ i.message.take 50 ++ "..."),
      start "3. SMELL ANALYZER" smells
        ++ passed ("Smelly code detected: " ++ Text.ofNat smelled.length ++ " issues")
        :: (smelled.take 5).map fun i => item i.type]

/-- The ways to report one review. -/
def reports (now : Text) : Sheet := do
  let reviewer ← Reviewer.new .standard []
  let outcome := Outcome.file (reviewer.reviewSource vulnerableText "<string>").result
  let terminal ← (Report.Reporter.terminal {}).format now outcome
  let data ← Settings.readJson (← (Report.Reporter.data {}).format now outcome)
  let markdown ← (Report.Reporter.markdown {}).format now outcome
  let page ← Report.Reporter.page.format now outcome
  let size (t : Text) : Text := passed ("Generated " ++ Text.ofNat t.length ++ " chars of output")
  let fieldText (name : Text) : Text := ((data.field? name).getD .null).inText
  let issues := ((data.field? "issues").bind Value.list?).getD []
  let holds (title : Text) (b : Bool) : Text := passed (title ++ ": " ++ yesNo b)
  let low := Text.lower page
  return sheet "REPORTERS"
    [["1. TERMINAL REPORTER", underline, size terminal,
        holds "Contains score"
          (Text.contains terminal "Score" || Text.contains (Text.lower terminal) "score")],
      ["2. JSON REPORTER", underline, passed "Valid JSON output",
        passed ("Has issues: " ++ Text.ofNat issues.length ++ " issues"),
        passed ("Has score: " ++ fieldText "score"), passed ("Has grade: " ++ fieldText "grade")],
      ["3. MARKDOWN REPORTER", underline, size markdown,
        holds "Has header" (Text.contains markdown "#"),
        holds "Has code blocks" (Text.contains markdown "```")],
      ["4. HTML REPORTER", underline, size page,
        holds "Has HTML tags" (Text.contains low "<html" || Text.contains low "<div"),
        holds "Has style" (Text.contains low "<style" || Text.contains low "style=")]]

end CodeReview.SelfCheck
