import CodeReview.Severity
import CodeReview.Value

/-!
One thing that a review finds.
-/

namespace CodeReview

structure Issue where
  type : Text
  severity : Rating
  file : Text
  line : Int
  message : Text
  code : Text := []
  column : Number := 0
  endLine : Option Int := none
  endColumn : Option Int := none
  suggestion : Text := []
  /-- The name of the rule that found it. -/
  rule : Text := []
  /-- An explanation and a fix that an assistant has written. -/
  explanation : Option Text := none
  fix : Option Text := none
  metadata : Entries Value := []
  deriving Inhabited

namespace Issue

/-- The kinds of issues that have a name of their own. -/
def knownTypes : List Text :=
  List.map String.toList
    ["sql_injection", "command_injection", "xss", "path_traversal", "hardcoded_secret",
      "insecure_random", "eval_usage", "pickle_usage", "insecure_hash", "high_complexity",
      "deep_nesting", "long_function", "too_many_params", "long_line", "large_file",
      "magic_number", "duplicate_code", "dead_code", "missing_docstring", "empty_except",
      "bare_except", "todo_comment", "commented_code", "inconsistent_naming", "unused_import",
      "unused_variable", "star_import", "mutable_default", "print_statement"]

def parseType (t : Text) : Except Failure Text :=
  if knownTypes.contains t then .ok t else .error (.notValid t "IssueType")

def toValue (i : Issue) : Value :=
  .object
    [("type".toList, .text i.type), ("severity".toList, .text i.severity.toText),
      ("file".toList, .text i.file), ("line".toList, .ofInt i.line),
      ("column".toList, .number i.column), ("end_line".toList, .ofOption .ofInt i.endLine),
      ("end_column".toList, .ofOption .ofInt i.endColumn), ("message".toList, .text i.message),
      ("code".toList, .text i.code), ("suggestion".toList, .text i.suggestion),
      ("rule".toList, .text i.rule),
      ("ai_explanation".toList, .ofOption .text i.explanation),
      ("ai_fix".toList, .ofOption .text i.fix), ("metadata".toList, .object i.metadata)]

/-- One line about an issue. -/
def describe (i : Issue) : Text :=
  "[" ++ i.severity.toText ++ "] " ++ i.type ++ " at " ++ i.file ++ ":" ++ Text.ofInt i.line
    ++ " - " ++ i.message

/-- The names of the parts, those that every issue needs first. -/
def requiredParts : List Text :=
  List.map String.toList ["type", "severity", "file", "line", "message"]

def optionalParts : List Text :=
  List.map String.toList
    ["code", "column", "end_line", "end_column", "suggestion", "rule", "ai_explanation", "ai_fix",
      "metadata"]

/-- The pairs of a name and a value in a list of such pairs. -/
def pairs (v : Value) : List (Text × Value) :=
  match v with
  | .list vs => vs.filterMap fun
    | .list [.text k, v] => some (k, v)
    | _ => none
  | .object fields => fields
  | _ => []

/-- An issue with named parts. -/
def ofFields (fields : List (Text × Value)) : Except Failure Issue := do
  match fields.find? fun f => !(requiredParts ++ optionalParts).contains f.1 with
  | some f => .error (.unexpectedPart "Issue" f.1)
  | none => pure ()
  let missing := requiredParts.filter fun n => !Entries.has fields n
  if !missing.isEmpty then .error (.missingParts "Issue" missing)
  let text (name : String) : Text := ((Entries.get? fields name).bind Value.text?).getD []
  let text? (name : String) : Option Text := (Entries.get? fields name).bind Value.text?
  let int? (name : String) : Option Int := (Entries.get? fields name).bind Value.int?
  return {
    type := text "type"
    severity := .ofText (text "severity")
    file := text "file"
    line := (int? "line").getD 0
    message := text "message"
    code := text "code"
    column := ((Entries.get? fields "column").bind Value.number?).getD 0
    endLine := int? "end_line"
    endColumn := int? "end_column"
    suggestion := text "suggestion"
    rule := text "rule"
    explanation := text? "ai_explanation"
    fix := text? "ai_fix"
    metadata := .ofPairs (((Entries.get? fields "metadata").map pairs).getD []) }

end Issue

/-- The issues by severity, the worst first; issues of one severity stay in order. -/
def bySeverity (issues : List Issue) : List Issue :=
  issues.mergeSort fun a b => a.severity.place ≤ b.severity.place

end CodeReview
