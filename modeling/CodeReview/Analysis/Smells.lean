import CodeReview.Analysis.Security
import CodeReview.Text.Word

/-!
Signs of careless code: missing documentation, unexplained numbers, unused names, leftovers.
-/

namespace CodeReview.Analysis

open Source

/-! ## Documentation -/

/-- A body that starts with a text. -/
def isDocumented : List Node → Bool
  | .exprStmt _ (.constant _ (.text ..)) :: _ => true
  | _ => false

/-- An issue at a node. -/
def smellAt (path : Text) (node : Node) (type : Text) (severity : Severity)
    (message code suggestion rule : Text) (metadata : List (Text × Value)) : Issue :=
  { type := type, severity := severity, file := path, line := node.line, column := node.span.col
    message := message, code := code, suggestion := suggestion, rule := "smells/" ++ rule
    metadata := metadata }

/-- Functions whose names start with an underscore need no documentation; all classes do. -/
def docstringIssues (path : Text) (node : Node) : List Issue :=
  match node with
  | .functionDef _ _ name _ body _ _ =>
    if name.head? = some '_' || isDocumented body then []
    else
      [smellAt path node "missing_docstring" .info
        ("Function '" ++ name ++ "' is missing a docstring") ("def " ++ name ++ "(...):")
        "Add a docstring describing what this function does" "missing-docstring"
        [("type", .text "function"), ("name", .text name)]]
  | .classDef _ name _ _ body _ =>
    if isDocumented body then []
    else
      [smellAt path node "missing_docstring" .info
        ("Class '" ++ name ++ "' is missing a docstring") ("class " ++ name ++ ":")
        "Add a docstring describing what this class represents" "missing-docstring"
        [("type", .text "class"), ("name", .text name)]]
  | _ => []

/-! ## Numbers -/

/-- Numbers that need no explanation. -/
def isPlainNumber : Number → Bool
  | .int i => i = 0 || i = 1 || i = 2 || i = -1 || i = 100 || i = 1000
  | .real x =>
    x == 0.0 || x == 1.0 || x == 2.0 || x == -1.0 || x == 100.0 || x == 1000.0 || x == 0.5

/-- The number that a literal stands for; truth values are plain. -/
def literalNumber? : Node → Option Number
  | .constant _ (.int n) => some (.int n)
  | .constant _ (.real x) => some (.real x)
  | _ => none

def isSmall : Number → Bool
  | .int i => 0 ≤ i && i ≤ 10
  | .real _ => false

/-- Whether the place of a number explains it: a name in capitals, a returned value, or a small
index. -/
def explainedBy (parent : Option Node) (n : Number) : Bool :=
  match parent with
  | some (.assign _ (.name _ id _ :: _) _) => Text.isAllUpper id
  | some (.returnStmt ..) => true
  | some (.subscript ..) | some (.slice ..) => isSmall n
  | _ => false

/-- A letter of a name in capitals. -/
def isCapital (c : Char) : Bool :=
  ('A' ≤ c && c ≤ 'Z') || c = '_'

/-- A line that defines a name in capitals. -/
def definesConstant (line : Text) : Bool :=
  !(line.takeWhile isCapital).isEmpty
    && (Text.stripLeft (line.dropWhile isCapital)).head? = some '='

def numberIssues (subject : Subject) (parent : Option Node) (node : Node) :
    Except Failure (List Issue) :=
  match literalNumber? node with
  | none => .ok []
  | some n =>
    let line := subject.line node.line
    if isPlainNumber n || explainedBy parent n || definesConstant line then .ok []
    else if n.tooLong then .error .tooManyDigits
    else
      .ok [smellAt subject.path node "magic_number" .low ("Magic number: " ++ n.toText) line
        ("Define a named constant: MEANINGFUL_NAME = " ++ n.toText) "magic-number"
        [("value", .number n)]]

/-! ## Exceptions -/

def handlerIssues (subject : Subject) (node : Node) : List Issue :=
  match node with
  | .handler span type _ body =>
    let line := subject.line span.line
    (if type.isNone then
      [smellAt subject.path node "bare_except" .medium
        ("Bare except clause catches all exceptions including KeyboardInterrupt and SystemExit")
        line "Specify exception type: except Exception: or more specific" "bare-except" []]
      else [])
    ++ (match body with
      | [.passStmt _] =>
        [smellAt subject.path node "empty_except" .medium
          "Empty except block silently ignores errors" line
          "Log the error or handle it appropriately" "empty-except" []]
      | _ => [])
  | _ => []

/-! ## Comments -/

/-- What follows the sign of a comment and blanks. -/
def afterHash? : Text → Option Text
  | '#' :: cs => some (Text.stripLeft cs)
  | _ => none

/-- Words that mark work to be done, in the order in which they are looked for. -/
def todoWords : List Text :=
  ["TODO", "FIXME", "HACK", "XXX", "BUG"]

/-- The text after a mark, a colon and blanks. -/
def afterMark (t : Text) : Text :=
  match Text.stripLeft t with
  | ':' :: cs => Text.stripLeft cs
  | cs => cs

/-- Where a line has a mark, and what the comment says. -/
def todoIn? (word line : Text) : Option (Nat × Text) :=
  (Text.firstAt? (fun t => (afterHash? t).bind (Text.afterWord? (Text.lower word))) line).map
    fun p => (p.1, Text.strip (afterMark p.2))

def todoIssues (path : Text) (number : Nat) (line : Text) : List Issue :=
  match todoWords.findSome? fun w => (todoIn? w line).map fun p => (w, p) with
  | none => []
  | some (word, column, comment) =>
    [{ type := "todo_comment", severity := .level .info, file := path, line := number
       column := column
       message := word ++ " comment found"
         ++ (if comment.isEmpty then [] else ": ".toList ++ comment.take 50)
       code := Text.strip line
       suggestion := "Address this comment or create a ticket to track it"
       rule := "smells/todo-comment"
       metadata := [("todo_type", .text word), ("comment", .text comment)] }]

/-- What follows a word and at least one blank. -/
def afterWordAndBlank? (word t : Text) : Option Text :=
  if word.isPrefixOf t then
    match t.drop word.length with
    | c :: cs => if Text.isBlank c then some (Text.stripLeft cs) else none
    | [] => none
  else none

/-- Whether what stands in a comment looks like code: a definition, a branch, an assignment or an
import. -/
def looksLikeCode (t : Text) : Bool :=
  let startsName (t : Text) : Bool := (t.head?.map Text.isWord).getD false
  let defines (w : String) : Bool := ((afterWordAndBlank? w t).map startsName).getD false
  let branches (w : String) : Bool := (afterWordAndBlank? w t).isSome
  let assigns : Bool :=
    startsName t && (Text.stripLeft (t.dropWhile Text.isWord)).head? = some '='
  let importsFrom : Bool :=
    match afterWordAndBlank? "from" t with
    | some t =>
      let rest := t.dropWhile Text.isWord
      startsName t && (rest.head?.map Text.isBlank).getD false
        && Text.startsWith (Text.stripLeft rest) "import"
    | none => false
  defines "def" || defines "class" || branches "if" || branches "for" || branches "while"
    || branches "return" || assigns || branches "import" || importsFrom

def commentedIssues (path : Text) (number : Nat) (line : Text) : List Issue :=
  let stripped := Text.strip line
  match afterHash? stripped with
  | none => []
  | some t =>
    if 10 ≤ stripped.length && looksLikeCode t then
      [{ type := "commented_code", severity := .level .info, file := path, line := number
         message := "Commented out code"
         code := if 60 < stripped.length then stripped.take 60 ++ "..." else stripped
         suggestion := "Remove commented code or use version control to track history"
         rule := "smells/commented-code" }]
    else []

/-! ## Imports and variables -/

def starIssues (path : Text) (node : Node) : List Issue :=
  match node with
  | .importFrom _ source names _ =>
    let source := source.getD []
    names.flatMap fun
      | .importName _ name _ =>
        if name = ['*'] then
          [smellAt path node "star_import" .low ("Star import from '" ++ source ++ "'")
            ("from " ++ source ++ " import *")
            "Import specific names: from module import name1, name2" "star-import"
            [("module", .text source)]]
        else []
      | _ => []
  | _ => []

/-- The names that a node imports, with its line. -/
def boundNames : Node → List (Text × Nat)
  | .importStmt span names =>
    names.filterMap fun
      | .importName _ name asName =>
        some (asName.getD (name.takeWhile (· ≠ '.')), span.line)
      | _ => none
  | .importFrom span _ names _ =>
    names.filterMap fun
      | .importName _ name asName =>
        if name = ['*'] then none else some (asName.getD name, span.line)
      | _ => none
  | _ => []

/-- The name at the left of attributes. -/
def rootName? : Node → Option Text
  | .name _ id _ => some id
  | .attr _ value _ _ => rootName? value
  | _ => none

/-- Names that need not be used. -/
def unusedAllowed : List Text :=
  ["TYPE_CHECKING", "annotations", "__future__"]

def importIssues (subject : Subject) (tree : Node) : List Issue :=
  let nodes := tree.walk
  let imports := Entries.ofPairs (nodes.flatMap boundNames)
  let used := nodes.filterMap rootName?
  imports.filterMap fun (name, line) =>
    if used.contains name || unusedAllowed.contains name then none
    else some
      { type := "unused_import", severity := .level .low, file := subject.path, line := line
        message := "Unused import: '" ++ name ++ "'", code := subject.line line
        suggestion := "Remove the unused import '" ++ name ++ "'"
        rule := "smells/unused-import", metadata := [("name", .text name)] }

/-- The names that a node assigns to, with their lines. -/
def assignedNames : Node → List (Text × Nat)
  | .assign _ targets _ =>
    targets.filterMap fun
      | .name span id _ => if id.head? = some '_' then none else some (id, span.line)
      | _ => none
  | _ => []

def loadedName? : Node → Option Text
  | .name _ id .load => some id
  | _ => none

/-- The variables of one function that are never read in it. -/
def variableIssues (subject : Subject) (node : Node) : List Issue :=
  match node with
  | .functionDef _ _ function _ _ _ _ =>
    let nodes := node.walk
    let assigned := Entries.ofPairs (nodes.flatMap assignedNames)
    let used := nodes.filterMap loadedName?
    assigned.filterMap fun (name, line) =>
      if used.contains name then none
      else some
        { type := "unused_variable", severity := .level .low, file := subject.path, line := line
          message := "Variable '" ++ name ++ "' is assigned but never used"
          code := subject.line line
          suggestion := "Remove the variable or prefix with underscore: _" ++ name
          rule := "smells/unused-variable"
          metadata := [("name", .text name), ("function", .text function)] }
  | _ => []

/-! ## Defaults and printing -/

def isMutable : Node → Bool
  | .list .. | .dict .. | .set .. => true
  | _ => false

/-- The defaults of parameters. -/
def defaultsOf : Node → List Node
  | .parameters _ _ _ _ keywordDefaults _ defaults => defaults ++ keywordDefaults.filterMap id
  | _ => []

def defaultIssues (path : Text) (node : Node) : List Issue :=
  match node with
  | .functionDef _ _ name params _ _ _ =>
    if (defaultsOf params).any isMutable then
      [smellAt path node "mutable_default" .medium
        ("Mutable default argument in function '" ++ name ++ "'") ("def " ++ name ++ "(...):")
        ("Use None as default and initialize inside function: if arg is None: arg = []")
        "mutable-default" [("function", .text name)]]
    else []
  | _ => []

def printIssues (subject : Subject) (node : Node) : List Issue :=
  match node with
  | .call span (.name _ id _) _ _ =>
    if id = "print".toList then
      [smellAt subject.path node "print_statement" .info
        "print() statement found (possible debug code)" (subject.line span.line)
        "Use logging instead of print for production code" "print-statement" []]
    else []
  | _ => []

/-- Files of tests may print. -/
def isTestPath (path : Text) : Bool :=
  Text.contains (Text.lower path) "test"

/-- The issues of a source that has a tree. -/
def smellIssues (subject : Subject) (tree : Node) : Except Failure (List Issue) := do
  let nodes := tree.walk
  let path := subject.path
  let numbers ← tree.walkWithParent.mapM fun p => numberIssues subject p.1 p.2
  return nodes.flatMap (docstringIssues path)
    ++ numbers.flatten
    ++ nodes.flatMap (handlerIssues subject)
    ++ subject.scan todoIssues
    ++ nodes.flatMap (starIssues path)
    ++ importIssues subject tree
    ++ nodes.flatMap (variableIssues subject)
    ++ subject.scan commentedIssues
    ++ nodes.flatMap (defaultIssues path)
    ++ (if isTestPath path then [] else nodes.flatMap (printIssues subject))

def smells : Analyzer :=
  .onTree "smells" "Detects code smells and anti-patterns" smellIssues

end CodeReview.Analysis
