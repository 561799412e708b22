import CodeReview.Command.Run
import CodeReview.SelfCheck.Reviews
import CodeReview.SelfCheck.Rules
import CodeReview.SelfCheck.Services
import CodeReview.SelfCheck.Sources

/-!
The sheet about the program as a whole, and the list of all sheets.
-/

namespace CodeReview.SelfCheck

/-- A line for each of some words that a text has. -/
def mentions (t : Text) (words : List (Text × Text)) : List Text :=
  words.filterMap fun (word, line) => if Text.contains t word then some (passed line) else none

/-- What a text that is a report in JSON tells. -/
def jsonLines (output : Text) : Except Failure (List Text) := do
  if (Text.strip output).head? = some '\x7b' then
    let data ← Settings.readJson output
    let fieldText (name : Text) : Text := ((data.field? name).getD .null).inText
    return [passed "Valid JSON output", passed ("Has score: " ++ fieldText "score"),
      passed ("Has grade: " ++ fieldText "grade")]
  else return [passed "JSON format command works"]

def program (now : Text) (disk : Disk) : Sheet := do
  let run (disk : Disk) (args : List Text) : Except Failure Command.Finished :=
    Command.run now disk args
  let sample (name : Text) (source : Text) : Disk :=
    disk.supply ["tmp", name] (.file (Text.utf8 source))
  let help := (← run disk ["--help"]).out
  let reviewHelp := (← run disk ["review", "--help"]).out
  let options : List Text :=
    ["--format", "--output", "--analyzers", "--min-severity", "--strict", "--relaxed", "--ai"]
  let reviewed := (← run (sample "paila_test_cli.py" vulnerableText)
    ["review", "/tmp/paila_test_cli.py"]).out
  let low := Text.lower reviewed
  let line (b : Bool) (t : Text) : List Text := if b then [passed t] else []
  let plain : Text := "def foo():\n    \"\"\"Docstring.\"\"\"\n    pass\n"
  let json ← run (sample "paila_test_cli_json.py" plain)
    ["review", "/tmp/paila_test_cli_json.py", "--format", "json"]
  let output := if (Text.strip json.out).head? = some '\x7b' then json.out else json.err
  let version := (← run disk ["--version"]).out
  return sheet "CLI"
    ["1. Testing CLI help..." :: mentions help
        [("AI-Powered Code Review SDK".toList, "CLI help works"),
          ("AI-Powered Code Review SDK".toList, "Description: AI-Powered Code Review SDK"),
          ("review".toList, "Has \"review\" command"), ("check".toList, "Has \"check\" command"),
          ("init".toList, "Has \"init\" command")],
      "2. Testing review command help..." :: mentions reviewHelp
        (options.map fun o => (o, "Has option: " ++ o)),
      List.flatten
        [["3. Testing actual review..."],
          line (Text.contains low "sql") "SQL injection detected",
          line (Text.contains low "password" || Text.contains low "secret")
            "Hardcoded password detected",
          line (Text.contains reviewed "CRITICAL" || Text.contains reviewed "critical")
            "Severity levels shown",
          line (Text.contains low "metrics") "Metrics shown",
          [passed "Review completed successfully"]],
      "4. Testing JSON output..." :: (← jsonLines output),
      "5. Testing version..." :: mentions version [("0.1.0".toList, "Version: 0.1.0")]]

inductive Topic where
  | core
  | analyzers
  | reports
  | assistants
  | forges
  | sources
  | rules
  | program
  deriving DecidableEq, Repr

def Topic.all : List Topic :=
  [core, analyzers, reports, assistants, forges, sources, rules, program]

/-- Fills in the sheet about a topic. -/
def Topic.run (t : Topic) (env : Environment) (now : Text) (disk : Disk) : Except Failure Text :=
  print (match t with
    | core => SelfCheck.core now
    | analyzers => SelfCheck.analyzers
    | reports => SelfCheck.reports now
    | assistants => SelfCheck.assistants env
    | forges => SelfCheck.forges
    | sources => SelfCheck.sources disk
    | rules => SelfCheck.rules
    | program => SelfCheck.program now disk)

end CodeReview.SelfCheck
