import CodeReview.Settings.Basic

/-!
Settings from named values.
-/

namespace CodeReview

/-- The variables that a program is started with. -/
abbrev Environment := Entries Text

namespace Settings

/-- The names of all settings. Some say what other programs do with a review, and have no effect
here. -/
def names : List Text :=
  List.map String.toList
    ["languages", "analyzers", "min_severity", "max_complexity", "max_nesting_depth",
      "max_function_lines", "max_file_lines", "max_line_length", "max_parameters",
      "min_maintainability", "ignore_paths", "ignore_files", "include_patterns", "ai_enabled",
      "ai_model", "ai_api_key", "ai_explain", "ai_fix", "ai_max_issues", "output_format", "verbose",
      "show_code_snippets", "max_code_snippet_lines", "cache_enabled", "cache_dir"]

/-- The key for an assistant: the first of two variables that is not empty, else a third. -/
def keyFrom (env : Environment) : Option Text :=
  let set (name : String) : Option Text :=
    (env.get? name).filter fun t => !t.isEmpty
  (set "ANTHROPIC_API_KEY").or ((set "OPENAI_API_KEY").or (env.get? "PAILA_API_KEY"))

/-- The names of the forms of a report. -/
def formats : List Text :=
  ["terminal", "json", "markdown", "html"]

section

variable (fields : List (Text × Value))

/-- Every name has to be the name of a setting. -/
def checkNames : Except Failure Unit :=
  match fields.find? fun f => !names.contains f.1 with
  | some f => .error (.unexpectedPart "Config" f.1)
  | none => .ok ()

/-- A setting by its name; if it is not given, the standard one. -/
def given {α : Type} (name : String) (read : Value → Option α) (default : Setting α) : Setting α :=
  match Entries.get? fields name with
  | none => default
  | some v => match read v with
    | some a => .proper a
    | none => .other v

/-- A setting that should be a text and is checked, so nothing else will do. -/
def checkedText (v : Value) : Except Failure Text :=
  match v with
  | .text t => .ok t
  | v => .error (.missingMember v.kind "lower")

/-- A setting by its name that may be one of few words in any case. -/
def givenWord (name : String) (default : Text) (refused : Text → Bool) (refusal : Text → Failure) :
    Except Failure Text := do
  let t ← checkedText ((Entries.get? fields name).getD (.text default))
  if refused (Text.lower t) then .error (refusal t) else .ok t

/-- A text or nothing at all. -/
def optional? : Value → Option (Option Text)
  | .null => some none
  | .text t => some (some t)
  | _ => none

/-- Settings with two words that have been checked and all others as they are given. -/
def ofWords (env : Environment) (minSeverity outputFormat : Text) : Settings :=
  let texts (name : String) (default : Setting (List Text)) :=
    given fields name Value.texts? default
  let number (name : String) (default : Setting Number) := given fields name Value.number? default
  let enabled := given fields "ai_enabled" Value.bool? standard.aiEnabled
  let key := given fields "ai_api_key" optional? standard.aiApiKey
  let hasKey := (key.value (Value.ofOption .text)).holds
  { languages := texts "languages" standard.languages
    analyzers := texts "analyzers" standard.analyzers
    minSeverity := minSeverity
    maxComplexity := number "max_complexity" standard.maxComplexity
    maxNesting := number "max_nesting_depth" standard.maxNesting
    maxFunctionLines := number "max_function_lines" standard.maxFunctionLines
    maxFileLines := number "max_file_lines" standard.maxFileLines
    maxLineLength := number "max_line_length" standard.maxLineLength
    maxParameters := number "max_parameters" standard.maxParameters
    minMaintainability := number "min_maintainability" standard.minMaintainability
    ignorePaths := texts "ignore_paths" standard.ignorePaths
    ignoreFiles := texts "ignore_files" standard.ignoreFiles
    includePatterns := texts "include_patterns" standard.includePatterns
    aiEnabled := enabled
    aiModel := given fields "ai_model" Value.text? standard.aiModel
    aiApiKey := if enabled.holds && !hasKey then .proper (keyFrom env) else key
    outputFormat := outputFormat
    verbose := given fields "verbose" Value.bool? standard.verbose }

end

/-- Settings with named values; those that are not given are standard. -/
def ofFields (env : Environment) (fields : List (Text × Value)) : Except Failure Settings := do
  checkNames fields
  let minSeverity ← givenWord fields "min_severity" standard.minSeverity
    (fun t => (Severity.ofText? t).isNone) .unknownMinimum
  let outputFormat ← givenWord fields "output_format" standard.outputFormat
    (fun t => !formats.contains t) .unknownFormat
  return ofWords fields env minSeverity outputFormat

/-- Settings from any value, which has to be named values. -/
def ofValue (env : Environment) (v : Value) : Except Failure Settings :=
  match v with
  | .object fields => ofFields env fields
  | v => .error (.notNamed v.kind)

/-- The settings that are lists. A quick review leaves them out. -/
def listNames : List Text :=
  List.map String.toList
    ["languages", "analyzers", "ignore_paths", "ignore_files", "include_patterns"]

/-- Words that name something about settings but no setting. A quick review does not leave them out
with the other unknown names, so they are refused. -/
def reservedNames : List Text :=
  List.map String.toList
    ["severity_order", "min_severity_index", "should_report_severity", "should_ignore_path",
      "get_file_extensions", "to_dict", "from_file", "strict", "relaxed", "security_only"]

/-- Settings for a quick review: names that mean nothing are left out. -/
def quick (env : Environment) (fields : List (Text × Value)) : Except Failure Settings :=
  ofFields env (fields.filter fun f =>
    (names.contains f.1 && !listNames.contains f.1) || reservedNames.contains f.1)

end Settings

end CodeReview
