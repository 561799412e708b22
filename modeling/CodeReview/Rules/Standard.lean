import CodeReview.Rules.Draft

/-!
The sets of rules that come with the library: security, complexity and style.
-/

namespace CodeReview.Rules

open Source

/-- A rule that looks for a pattern in every line. There is none if the pattern cannot be read. -/
def lineRule (id name description : Text) (severity : Severity) (category pattern message
    suggestion : Text) (tags : List Text) : Option Rule :=
  let draft : Draft :=
    { id := id, name := name, description := description, severity := .level severity
      category := category, tags := tags }
  ((draft.pattern pattern message suggestion).bind Draft.build).toOption

def security : RuleSet where
  name := "security"
  rules := List.filterMap id
    [ lineRule "security/sql-injection-format" "SQL Injection (String Format)"
        "Detects SQL queries built with string formatting" .critical "security"
        ("[\"\\']SELECT\\s.*%s|[\"\\']INSERT\\s.*%s|[\"\\']UPDATE\\s.*%s"
          ++ "|[\"\\']DELETE\\s.*%s" : String)
        "Potential SQL injection via string formatting" "Use parameterized queries instead"
        ["sql", "injection", "owasp"],
      lineRule "security/sql-injection-fstring" "SQL Injection (f-string)"
        "Detects SQL queries built with f-strings" .critical "security"
        "f[\"\\'](?:SELECT|INSERT|UPDATE|DELETE)\\s.*\\\x7b"
        "Potential SQL injection via f-string" "Use parameterized queries instead"
        ["sql", "injection", "owasp"],
      lineRule "security/command-injection" "Command Injection"
        "Detects shell commands built with user input" .critical "security"
        ("os\\.system\\s*\\([^)]*\\+|subprocess\\.(?:call|run|Popen)\\s*\\([^)]*"
          ++ "shell\\s*=\\s*True" : String)
        "Potential command injection vulnerability"
        "Use subprocess with list arguments instead of shell=True"
        ["command", "injection", "owasp"],
      lineRule "security/hardcoded-password" "Hardcoded Password"
        "Detects hardcoded passwords in code" .high "security"
        "(?:password|passwd|pwd)\\s*=\\s*[\"\\'][^\"\\']+[\"\\']"
        "Hardcoded password detected" "Use environment variables or a secrets manager"
        ["secrets", "credentials"],
      lineRule "security/hardcoded-api-key" "Hardcoded API Key"
        "Detects hardcoded API keys" .high "security"
        ("(?:api_key|apikey|api_secret|secret_key)\\s*=\\s*"
          ++ "[\"\\'][a-zA-Z0-9_-]\x7b20,\x7d[\"\\']" : String)
        "Hardcoded API key detected" "Use environment variables or a secrets manager"
        ["secrets", "credentials"],
      lineRule "security/eval-usage" "Eval Usage" "Detects use of eval() function" .high "security"
        "\\beval\\s*\\(" "Use of eval() detected - potential code injection"
        "Use ast.literal_eval() for safe evaluation" ["dangerous", "injection"],
      lineRule "security/exec-usage" "Exec Usage" "Detects use of exec() function" .high "security"
        "\\bexec\\s*\\(" "Use of exec() detected - potential code injection"
        "Avoid exec() with dynamic code" ["dangerous", "injection"],
      lineRule "security/pickle-loads" "Pickle Loads" "Detects unsafe pickle deserialization"
        .medium "security" "pickle\\.loads?\\s*\\("
        "Pickle deserialization is unsafe with untrusted data"
        "Use JSON or other safe serialization formats" ["serialization", "unsafe"] ]

/-- A limit from a configuration. -/
def limit (config : Entries Value) (name : Text) (default : Nat) : Setting Number :=
  match config.get? name with
  | none => .proper (.int default)
  | some v => (v.number?.map Setting.proper).getD (.other v)

/-- Statements that count as a level of nesting for the rule about it. -/
def opensLevel : Node → Bool
  | .ifStmt .. | .whileStmt .. => true
  | .forStmt _ async .. | .withStmt _ async .. => !async
  | .tryStmt _ star .. => !star
  | _ => false

/-- The number of parameters that can be given by position and by name. -/
def parameterCount : Node → Nat
  | .parameters _ regular .. => regular.length
  | _ => 0

/-- A check that measures every function of a tree against a limit. -/
def functionChecker (type : Text) (severity : Severity) (measure : Node → Nat)
    (limit : Setting Number) (words : Nat → Text) (suggestion rule : Text) : Checker :=
  fun _ s tree =>
    match treeFor s tree with
    | none => .ok []
    | some t => do
      let found ← t.walk.mapM fun n => do
        match n with
        | .functionDef span _ name .. =>
          let size := measure n
          if ← limit.exceededBy size then
            return some
              { type := type, severity := .level severity, file := s.path, line := span.line
                column := span.col
                message := "Function '" ++ name ++ "' has " ++ words size ++ " (max: "
                  ++ limit.inText ++ ")"
                suggestion := suggestion, rule := rule : Issue }
          else return none
        | _ => return none
      return found.filterMap id

def complexity (config : Entries Value) : RuleSet :=
  let maxParameters := limit config "max_parameters" 5
  let maxDepth := limit config "max_nesting_depth" 4
  { name := "complexity"
    rules :=
      [ { id := "complexity/too-many-params", name := "Too Many Parameters"
          description :=
            "Functions should have at most " ++ maxParameters.inText ++ " parameters"
          severity := .level .low, category := "complexity"
          checker := functionChecker "too_many_parameters" .low
            (fun n => match n with
              | .functionDef _ _ _ params .. => parameterCount params
              | _ => 0)
            maxParameters (fun n => Text.ofNat n ++ " parameters")
            "Consider using a configuration object or breaking into smaller functions"
            "complexity/too-many-params" },
        { id := "complexity/deep-nesting", name := "Deep Nesting"
          description := "Nesting should not exceed " ++ maxDepth.inText ++ " levels"
          severity := .level .medium, category := "complexity"
          checker := functionChecker "deep_nesting" .medium (Analysis.depth opensLevel)
            maxDepth (fun n => "nesting depth " ++ Text.ofNat n)
            "Use early returns or extract nested logic" "complexity/deep-nesting" } ] }

/-- Lines that may be longer than the limit: those with an address and imports. -/
def mayBeLong (line : Text) : Bool :=
  Text.contains line "http://" || Text.contains line "https://"
    || Text.startsWith (Text.strip line) "import " || Text.startsWith (Text.strip line) "from "

def longLines (limit : Setting Number) (s : Subject) : Except Failure (List Issue) := do
  let found ← s.numberedLines.mapM fun (number, line) => do
    if (← limit.exceededBy line.length) && !mayBeLong line then
      return some
        { type := "line_too_long", severity := .level .info, file := s.path, line := number
          column := limit.number
          message := "Line is " ++ Text.ofNat line.length ++ " characters (max: " ++ limit.inText
            ++ ")"
          suggestion := "Break line into multiple lines", rule := "style/line-length" : Issue }
    else return none
  return found.filterMap id

/-- The numbers of lines that have two blank lines right before them and are blank themselves.
`run` is the number of blank lines before the first of the lines. -/
def crowdedBlanks : Nat → List (Nat × Text) → List Nat
  | _, [] => []
  | run, (number, line) :: rest =>
    if (Text.strip line).isEmpty then
      if 2 < run + 1 then number :: crowdedBlanks (run + 1) rest else crowdedBlanks (run + 1) rest
    else crowdedBlanks 0 rest

def blankLines (s : Subject) : List Issue :=
  (crowdedBlanks 0 s.numberedLines).map fun (number : Nat) =>
    { type := "multiple_blank_lines", severity := .level .info, file := s.path, line := number
      message := "Too many consecutive blank lines"
      suggestion := "Use at most 2 consecutive blank lines", rule := "style/blank-lines" }

def finalNewline (s : Subject) : List Issue :=
  if s.source.isEmpty || s.source.getLast? = some '\n' then []
  else
    [{ type := "no_final_newline", severity := .level .info, file := s.path
       line := (Text.lines s.source).length, message := "File does not end with a newline"
       suggestion := "Add a newline at the end of the file", rule := "style/final-newline" }]

def style (config : Entries Value) : RuleSet :=
  let maxLength := limit config "max_line_length" 120
  { name := "style"
    rules :=
      [ { id := "style/line-length", name := "Line Too Long"
          description := "Lines should not exceed " ++ maxLength.inText ++ " characters"
          severity := .level .info, category := "style"
          checker := fun _ s _ => longLines maxLength s } ]
      ++ (lineRule "style/trailing-whitespace" "Trailing Whitespace"
          "Lines should not have trailing whitespace" .info "style" "[ \\t]+$"
          "Trailing whitespace" "Remove trailing whitespace" ["whitespace"]).toList
      ++ [ { id := "style/blank-lines", name := "Multiple Blank Lines"
             description := "Avoid more than 2 consecutive blank lines"
             severity := .level .info, category := "style"
             checker := fun _ s _ => .ok (blankLines s) },
           { id := "style/final-newline", name := "Missing Final Newline"
             description := "Files should end with a newline"
             severity := .level .info, category := "style"
             checker := fun _ s _ => .ok (finalNewline s) } ] }

end CodeReview.Rules
