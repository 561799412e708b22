import CodeReview.Files.Glob
import CodeReview.Severity
import CodeReview.Text.Case
import CodeReview.Value

/-!
What a review looks at and what it reports.

Settings come from files and from other programs, so a setting may hold a value of the wrong kind.
That is no error in itself: it is one as soon as the setting is used in a way that its value does
not allow.
-/

namespace CodeReview

/-- A setting: a value of the kind that it should have, or any other value. -/
inductive Setting (α : Type) where
  | proper (a : α)
  | other (v : Value)
  deriving Inhabited

namespace Setting

instance {α : Type} : Coe α (Setting α) := ⟨.proper⟩

instance : OfNat (Setting Number) n := ⟨.proper (.int n)⟩

/-- Whether a number of things is more than the limit. -/
def exceededBy (limit : Setting Number) (n : Int) : Except Failure Bool :=
  match limit with
  | proper l => .ok (l.lt n)
  | other (.bool b) => .ok (Number.lt (if b then 1 else 0) n)
  | other v => .error (.notOrdered "int" v.kind)

def number (s : Setting Number) : Number :=
  match s with
  | proper n => n
  | other (.bool true) => 1
  | other _ => 0

def value {α : Type} (f : α → Value) : Setting α → Value
  | proper a => f a
  | other v => v

/-- A limit as messages show it. -/
def inText (s : Setting Number) : Text :=
  (s.value .number).inText

def holds : Setting Bool → Bool
  | proper b => b
  | other v => v.holds

/-- The members of a list. A text is a list of characters, and fields are a list of names. -/
def members : Setting (List Text) → Except Failure (List Value)
  | proper ts => .ok (ts.map .text)
  | other (.list vs) => .ok vs
  | other (.text t) => .ok (t.map fun c => .text [c])
  | other (.object fields) => .ok (fields.map fun f => .text f.1)
  | other v => .error (.notIterable v.kind)

/-- Whether a name is in a list, or part of a text. -/
def lists (s : Setting (List Text)) (name : Text) : Except Failure Bool :=
  match s with
  | proper ts => .ok (ts.contains name)
  | other (.list vs) => .ok (vs.any fun v => v.text? = some name)
  | other (.text t) => .ok (Text.contains t name)
  | other (.object fields) => .ok (Entries.has fields name)
  | other v => .error (.notSearchable v.kind)

end Setting

structure Settings where
  languages : Setting (List Text)
  analyzers : Setting (List Text)
  /-- The mildest severity that is reported; upper case counts as lower case when it is checked. -/
  minSeverity : Text
  maxComplexity : Setting Number
  maxNesting : Setting Number
  maxFunctionLines : Setting Number
  maxFileLines : Setting Number
  maxLineLength : Setting Number
  maxParameters : Setting Number
  minMaintainability : Setting Number
  ignorePaths : Setting (List Text)
  ignoreFiles : Setting (List Text)
  /-- Files that are looked at although they are to be ignored. -/
  includePatterns : Setting (List Text)
  aiEnabled : Setting Bool
  aiModel : Setting Text
  aiApiKey : Setting (Option Text)
  outputFormat : Text
  verbose : Setting Bool
  deriving Inhabited

namespace Settings

def standard : Settings where
  languages := .proper ["python"]
  analyzers := .proper ["complexity", "security", "smells"]
  minSeverity := "info"
  maxComplexity := 10
  maxNesting := 4
  maxFunctionLines := 50
  maxFileLines := 500
  maxLineLength := 120
  maxParameters := 5
  minMaintainability := .proper (.real 20.0)
  ignorePaths := .proper
    ["node_modules/", ".git/", "__pycache__/", ".venv/", "venv/", "env/", ".env/", "dist/",
      "build/", ".eggs/", "*.egg-info/", ".tox/", ".pytest_cache/", ".mypy_cache/", ".coverage",
      "htmlcov/"]
  ignoreFiles := .proper
    ["*.pyc", "*.pyo", "*.so", "*.dll", "*.exe", "*.log", "*.lock", "*.min.js", "*.min.css"]
  includePatterns := .proper []
  aiEnabled := .proper false
  aiModel := .proper ("claude-sonnet-4-20250514" : Text)
  aiApiKey := .proper none
  outputFormat := "terminal"
  verbose := .proper false

/-- For rigorous reviews. -/
def strict : Settings :=
  { standard with
    minSeverity := "low"
    maxComplexity := 7
    maxNesting := 3
    maxFunctionLines := 30
    maxFileLines := 300
    maxLineLength := 100
    maxParameters := 4
    minMaintainability := .proper (.real 50.0) }

/-- For lenient reviews. -/
def relaxed : Settings :=
  { standard with
    minSeverity := "high"
    maxComplexity := 15
    maxNesting := 6
    maxFunctionLines := 100
    maxFileLines := 1000
    maxLineLength := 150
    maxParameters := 8
    minMaintainability := .proper (.real 10.0) }

/-- For reviews of security alone. -/
def securityOnly : Settings :=
  { standard with
    analyzers := .proper ["security"]
    minSeverity := "medium" }

def toValue (s : Settings) : Value :=
  .object
    [("languages".toList, s.languages.value .texts), ("analyzers".toList, s.analyzers.value .texts),
      ("min_severity".toList, .text s.minSeverity),
      ("max_complexity".toList, s.maxComplexity.value .number),
      ("max_nesting_depth".toList, s.maxNesting.value .number),
      ("max_function_lines".toList, s.maxFunctionLines.value .number),
      ("max_file_lines".toList, s.maxFileLines.value .number),
      ("max_line_length".toList, s.maxLineLength.value .number),
      ("max_parameters".toList, s.maxParameters.value .number),
      ("min_maintainability".toList, s.minMaintainability.value .number),
      ("ignore_paths".toList, s.ignorePaths.value .texts),
      ("ai_enabled".toList, s.aiEnabled.value .bool), ("ai_model".toList, s.aiModel.value .text),
      ("output_format".toList, .text s.outputFormat)]

/-- The place of a severity given by its name, in any case. -/
def rankOf (t : Text) : Except Failure Nat :=
  match Severity.ofText? (Text.lower t) with
  | some l => .ok l.rank
  | none => .error (.notListed (Text.lower t))

/-- The place of the mildest severity that is reported. -/
def minRank (s : Settings) : Except Failure Nat :=
  rankOf s.minSeverity

/-- Whether issues of a severity are to be reported. -/
def reports (s : Settings) (severity : Text) : Except Failure Bool := do
  let rank ← rankOf severity
  return rank ≤ (← s.minRank)

/-- Whether a member of a list of patterns is part of a text. -/
def partOf (pattern : Value) (t : Text) : Except Failure Bool :=
  match pattern with
  | .text p => .ok (Text.contains t p)
  | v => .error (.notInText v.kind)

/-- Whether a path fits a member of a list of patterns. -/
def pathFits (p : Path) (pattern : Value) : Except Failure Bool :=
  match pattern with
  | .text t => p.fits t
  | v => if v.holds then .error (.notSubscriptable v.kind) else .error .emptyPathPattern

/-- Looks for the first member that passes a test. -/
def anyOf {α : Type} (test : α → Except Failure Bool) : List α → Except Failure Bool
  | [] => .ok false
  | a :: as => do if ← test a then return true else anyOf test as

/-- Whether a path is left out of reviews. -/
def ignoresPath (s : Settings) (path : Text) : Except Failure Bool := do
  let p := Path.ofText path
  if ← anyOf (pathFits p) (← s.includePatterns.members) then return false
  let part (v : Value) : Except Failure Bool := do
    if ← partOf v path then return true else pathFits p v
  if ← anyOf part (← s.ignorePaths.members) then return true
  anyOf (pathFits p) (← s.ignoreFiles.members)

/-- The ends of the names of files in a language. -/
def extensionsOf (language : Text) : List Text :=
  match String.ofList (Text.lower language) with
  | "python" => [".py", ".pyw"]
  | "javascript" => [".js", ".jsx", ".mjs"]
  | "typescript" => [".ts", ".tsx"]
  | "java" => [".java"]
  | "go" => [".go"]
  | "rust" => [".rs"]
  | "c" => [".c", ".h"]
  | "cpp" => [".cpp", ".hpp", ".cc", ".cxx"]
  | "csharp" => [".cs"]
  | "ruby" => [".rb"]
  | "php" => [".php"]
  | _ => []

/-- The ends of the names of files that are looked at, in alphabetical order. -/
def extensions (s : Settings) : Except Failure (List Text) := do
  let found ← (← s.languages.members).mapM fun
    | .text t => .ok (extensionsOf t)
    | v => .error (.missingMember v.kind "lower")
  return (found.flatten.eraseDups).mergeSort Text.le

end Settings

end CodeReview
