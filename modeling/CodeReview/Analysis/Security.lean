import CodeReview.Analysis.Basic
import CodeReview.Text.Caseless

/-!
Code that others could misuse: queries and commands built from parts, secrets in the text, and
functions that are not safe.
-/

namespace CodeReview.Analysis

open Source

/-! ## Secrets -/

def isQuote (c : Char) : Bool :=
  c = '"' || c = '\''

/-- An equals sign, and then a text in quotes that is not empty. -/
def assignsText (t : Text) : Bool :=
  match Text.stripLeft t with
  | '=' :: rest =>
    match Text.stripLeft rest with
    | q :: inside =>
      isQuote q && !(inside.takeWhile fun c => !isQuote c).isEmpty
        && !(inside.dropWhile fun c => !isQuote c).isEmpty
    | [] => false
  | _ => false

/-- A name, in any case, that is given a text somewhere in a line. -/
def namesSecret (word line : Text) : Bool :=
  (Text.firstAt? (fun t => (Text.afterWord? word t).filter assignsText) line).isSome

/-- Names for secrets, and what they are called. -/
def secretNames : List (Text × Text) :=
  [("password", "hardcoded password"), ("passwd", "hardcoded password"),
    ("pwd", "hardcoded password"), ("secret", "hardcoded secret"),
    ("api_key", "hardcoded API key"), ("apikey", "hardcoded API key"),
    ("token", "hardcoded token"), ("auth_token", "hardcoded auth token"),
    ("access_key", "hardcoded access key"), ("private_key", "hardcoded private key")]

/-- Signs of an example in place of a secret. -/
def placeholders : List Text :=
  ["example", "xxx", "your_", "changeme", "placeholder", "<", ">"]

/-- Hides the middle of texts in quotes that have at least six characters. `skip` counts the
characters of such a text that are still to be passed over. -/
def maskAux : Nat → Text → Text
  | _, [] => []
  | skip + 1, _ :: cs => maskAux skip cs
  | 0, c :: cs =>
    if isQuote c then
      let inside := cs.takeWhile fun d => !isQuote d
      if 6 ≤ inside.length && (cs.drop inside.length).head? = some c then
        c :: (inside.take 4 ++ "****" ++ inside.drop (inside.length - 2) ++ [c])
          ++ maskAux (inside.length + 1) cs
      else c :: maskAux 0 cs
    else c :: maskAux 0 cs

def maskSecrets (line : Text) : Text :=
  maskAux 0 line

/-- The issue of one line. -/
def secretIssues (path : Text) (number : Nat) (line : Text) : List Issue :=
  if isCommentLine line then []
  else if placeholders.any fun p => Text.contains (Text.lower line) p then []
  else match secretNames.find? fun s => namesSecret s.1 line with
    | none => []
    | some (_, what) =>
      [{ type := "hardcoded_secret", severity := .level .high, file := path, line := number
         message := "Potential " ++ what ++ " found"
         code := maskSecrets (Text.strip line)
         suggestion := ("Use environment variables or a secrets manager instead of "
           ++ "hardcoding secrets" : String)
         rule := "security/hardcoded-secret"
         metadata := [("secret_type", .text what)] }]

/-! ## Names of what is called -/

/-- The last name of what is called. -/
def calledName : Node → Text
  | .name _ id _ => id
  | .attr _ _ id _ => id
  | _ => []

/-- The names of what is called, from the left; other expressions in between have none. -/
def calledNames : Node → List Text
  | .name _ id _ => [id]
  | .attr _ value id _ => calledNames value ++ [id]
  | _ => []

/-- The names of what is called, with dots between them. -/
def calledPath (n : Node) : Text :=
  Text.join ['.'] (calledNames n)

/-! ## Queries -/

/-- Words of the query language. -/
def sqlWords : List Text :=
  ["select", "insert", "update", "delete", "drop", "create", "alter", "truncate", "exec",
    "execute", "union", "where", "from", "into", "values", "set", "order", "group", "having"]

def mentionsSql (t : Text) : Bool :=
  sqlWords.any fun w => Text.contains (Text.lower t) w

def literalText : Node → Text
  | .constant _ (.text t _) => t
  | _ => []

/-- The text of a literal that is formatted; only texts and bytes can mention anything. -/
def formattedText : Constant → Text
  | .text t _ => t
  | .bytes bs => Text.quotedBytes bs
  | _ => []

/-- How a node builds a query, if it does. -/
def buildsQuery : Node → Option (Text × Text × Text)
  | .binary _ left .add right =>
    if mentionsSql (literalText left ++ literalText right) then
      some ("string_concat", "Potential SQL injection: SQL query built with string concatenation",
        ("Use parameterized queries: cursor.execute('SELECT * FROM users WHERE id = ?', "
          ++ "(user_id,))" : String))
    else none
  | .joined _ values =>
    if mentionsSql (values.flatMap literalText) then
      some ("fstring", "Potential SQL injection: SQL query built with f-string",
        "Use parameterized queries instead of f-strings for SQL")
    else none
  | .call _ (.attr _ (.constant _ value) id _) _ _ =>
    if id = "format".toList && mentionsSql (formattedText value) then
      some ("format", "Potential SQL injection: SQL query built with .format()",
        "Use parameterized queries instead of string formatting")
    else none
  | _ => none

/-- An issue at a node, with the line of the node as its code. -/
def issueAt (subject : Subject) (node : Node) (type : Text) (severity : Severity)
    (message suggestion rule : Text) (metadata : List (Text × Value)) : Issue :=
  { type := type, severity := severity, file := subject.path, line := node.line
    column := node.span.col, message := message, code := subject.line node.line
    suggestion := suggestion, rule := rule, metadata := metadata }

def queryIssues (subject : Subject) (node : Node) : List Issue :=
  match buildsQuery node with
  | none => []
  | some (pattern, message, suggestion) =>
    [issueAt subject node "sql_injection" .critical message suggestion "security/sql-injection"
      [("pattern", .text pattern)]]

/-- A number that is formatted, with more digits than can be written. -/
def formatsTooLong : Node → Bool
  | .call _ (.attr _ (.constant _ (.int n)) id _) _ _ =>
    id = "format".toList && (n : Number).tooLong
  | _ => false

/-- The queries of a tree. Whatever is formatted is written out to look for them. -/
def queries (subject : Subject) (tree : Node) : Except Failure (List Issue) :=
  if tree.walk.any formatsTooLong then .error .tooManyDigits
  else .ok (tree.walk.flatMap (queryIssues subject))

/-! ## Calls -/

/-- Functions that run commands. -/
def commandFunctions : List Text :=
  ["os.system", "os.popen", "os.popen2", "os.popen3", "os.popen4", "subprocess.call",
    "subprocess.run", "subprocess.Popen", "commands.getoutput", "commands.getstatusoutput"]

/-- The keyword that hands a command to a shell. -/
def shellOn : Node → Bool
  | .keyword _ (some name) (.constant _ (.bool true)) => name = "shell".toList
  | _ => false

/-- An argument that is put together when the program runs. -/
def varies : Node → Bool
  | .name .. | .binary .. | .joined .. | .call .. => true
  | _ => false

def commandIssues (subject : Subject) (node : Node) : List Issue :=
  match node with
  | .call _ function args keywords =>
    let path := calledPath function
    let shell := keywords.any shellOn
    if commandFunctions.contains path && (shell || args.any varies) then
      [issueAt subject node "command_injection" (if shell then .critical else .high)
        ("Potential command injection in " ++ path ++ "()"
          ++ (if shell then (" with shell=True" : Text) else []))
        "Avoid shell=True and use a list of arguments. Sanitize all user input."
        "security/command-injection" [("function", .text path), ("shell_true", .bool shell)]]
    else []
  | _ => []

/-- Functions that run code, and what is said about them. -/
def codeFunctions : List (Text × Text) :=
  [("eval", "Use of eval() can execute arbitrary code"),
    ("exec", "Use of exec() can execute arbitrary code"),
    ("compile", "compile() with exec can execute arbitrary code")]

def evalIssues (subject : Subject) (node : Node) : List Issue :=
  match node with
  | .call _ function _ _ =>
    match codeFunctions.lookup (calledName function) with
    | none => []
    | some message =>
      [issueAt subject node "eval_usage" .high message
        ("Avoid using " ++ calledName function
          ++ "() with untrusted input. Consider safer alternatives.")
        "security/eval-usage" [("function", .text (calledName function))]]
  | _ => []

/-- Weak hashes, in the order in which they are looked for. -/
def weakHashes : List Text :=
  ["md5", "sha1", "sha"]

/-- The first weak hash of a list that a dotted name speaks of. -/
def spokenHash? (hashes : List Text) (path : Text) : Option Text :=
  hashes.find? fun h =>
    Text.contains path ("hashlib." ++ h) || Text.contains path ("." ++ h ++ "(")

/-- The issue of a call, where the weak hashes are looked for in the order of a list. -/
def hashIssuesIn (hashes : List Text) (subject : Subject) (node : Node) : List Issue :=
  match node with
  | .call _ function _ _ =>
    match spokenHash? hashes (calledPath function) with
    | none => []
    | some h =>
      [issueAt subject node "insecure_hash" .medium
        ("Use of weak hash algorithm: " ++ Text.upper h)
        "Use SHA-256 or stronger: hashlib.sha256()" "security/insecure-hash"
        [("algorithm", .text h)]]
  | _ => []

def hashIssues (subject : Subject) (node : Node) : List Issue :=
  hashIssuesIn weakHashes subject node

def pickleIssues (subject : Subject) (node : Node) : List Issue :=
  match node with
  | .call _ function _ _ =>
    let path := calledPath function
    if Text.contains path "pickle.load" then
      [issueAt subject node "pickle_usage" .high
        "Use of pickle.load() can execute arbitrary code"
        ("Never unpickle data from untrusted sources. Use JSON or other safe formats.")
        "security/pickle-usage" [("function", .text path)]]
    else []
  | _ => []

/-- Words for things that nobody should be able to guess. -/
def guardedWords : List Text :=
  ["password", "token", "secret", "key", "auth", "session", "csrf"]

def randomIssues (subject : Subject) (node : Node) : List Issue :=
  match node with
  | .call span function _ _ =>
    let path := calledPath function
    let line := Text.lower (subject.line span.line)
    if Text.startsWith path "random." && guardedWords.any fun w => Text.contains line w then
      [issueAt subject node "insecure_random" .high
        ("Using " ++ path ++ " for security-sensitive operation")
        ("Use secrets module for cryptographic random: secrets.token_hex(), "
          ++ "secrets.token_urlsafe()" : String)
        "security/insecure-random" [("function", .text path)]]
    else []
  | _ => []

/-- Whether a source speaks of importing the module for random numbers. -/
def importsRandom (source : Text) : Bool :=
  Text.contains source "import random" || Text.contains source "from random"

/-- Functions that take a path. -/
def pathFunctions : List Text :=
  ["open", "read", "write", "os.path.join"]

/-- A path that is put together from parts. -/
def builtPath : Node → Bool
  | .binary .. | .joined .. => true
  | _ => false

def pathIssues (subject : Subject) (node : Node) : List Issue :=
  match node with
  | .call _ function args _ =>
    let name := calledName function
    if pathFunctions.contains name && (args.head?.map builtPath).getD false then
      [issueAt subject node "path_traversal" .medium
        ("Potential path traversal in " ++ name ++ "()")
        ("Validate and sanitize file paths. Use os.path.abspath() and check against allowed "
          ++ "directories." : String)
        "security/path-traversal" [("function", .text name)]]
    else []
  | _ => []

/-- The issues of a source that has a tree. -/
def securityIssues (subject : Subject) (tree : Node) : Except Failure (List Issue) := do
  let nodes := tree.walk
  return (← queries subject tree)
    ++ nodes.flatMap (commandIssues subject)
    ++ subject.scan secretIssues
    ++ nodes.flatMap (evalIssues subject)
    ++ nodes.flatMap (hashIssues subject)
    ++ nodes.flatMap (pickleIssues subject)
    ++ (if importsRandom subject.source then nodes.flatMap (randomIssues subject) else [])
    ++ nodes.flatMap (pathIssues subject)

def security : Analyzer :=
  .onTree "security" "Detects security vulnerabilities" securityIssues

end CodeReview.Analysis
