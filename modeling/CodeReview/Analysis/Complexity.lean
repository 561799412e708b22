import CodeReview.Analysis.Basic
import CodeReview.Metrics

/-!
How involved code is: decisions, nesting, lengths and parameters.
-/

namespace CodeReview.Analysis

open Source

/-- The decisions that a node makes itself. Assertions count where `assertions` says so. -/
def decisions (assertions : Bool) : Node → Nat
  | .ifStmt .. | .ifExp .. | .forStmt .. | .whileStmt .. | .handler .. | .withStmt .. => 1
  | .boolOp _ _ values => values.length - 1
  | .clause _ _ _ conditions => conditions.length
  | .assertStmt .. => if assertions then 1 else 0
  | _ => 0

/-- One more than the number of decisions in a tree. -/
def cyclomatic (assertions : Bool) (n : Node) : Nat :=
  n.walk.foldl (fun count m => count + decisions assertions m) 1

/-- Statements that open a level of nesting. -/
def opensLevel : Node → Bool
  | .ifStmt .. | .forStmt .. | .whileStmt .. | .withStmt .. | .functionDef .. | .classDef .. => true
  | .tryStmt _ star .. => !star
  | _ => false

/-- The most nodes that open a level on a way down from a node; the node itself does not count. -/
def depth (opens : Node → Bool) (n : Node) : Nat :=
  (n.children.attach.map fun c => (if opens c.1 then 1 else 0) + depth opens c.1).foldl max 0
termination_by sizeOf n
decreasing_by exact Node.sizeOf_lt_of_mem_children c.2

def nesting (n : Node) : Nat :=
  depth opensLevel n

/-- The lines of a function without those of its documentation. -/
def functionLines (span : Span) (body : List Node) : Int :=
  let total : Int := (span.endLine : Int) - span.line + 1
  match body with
  | .exprStmt s (.constant _ (.text ..)) :: _ => total - ((s.endLine : Int) - s.line + 1)
  | _ => total

/-- The names of the parameters that are counted; those that can be given only by position are
not. -/
def parameterNames : Node → List Text
  | .parameters _ regular rest keywordOnly _ keywordRest _ =>
    let name (n : Node) : Text := n.parameterName?.getD []
    regular.map name ++ (rest.map fun r => '*' :: name r).toList ++ keywordOnly.map name
      ++ (keywordRest.map fun r => '*' :: '*' :: name r).toList
  | _ => []

/-- The first three names. -/
def briefParameters (names : List Text) : Text :=
  if 3 < names.length then Text.join ", " (names.take 3) ++ ", ..." else Text.join ", " names

/-- The issues of one function. -/
def functionIssues (s : Settings) (path : Text) (node : Node) : Except Failure (List Issue) :=
  match node with
  | .functionDef span _ name params body _ _ => do
    let complexity := cyclomatic true node
    let depth := nesting node
    let lines := functionLines span body
    let names := parameterNames params
    let issue (type : Text) (severity : Severity) (message code suggestion rule : Text)
        (metadata : List (Text × Value)) : Issue :=
      { type := type, severity := severity, file := path, line := span.line, column := span.col
        message := "Function '" ++ name ++ "' has " ++ message, code := "def " ++ name ++ code
        suggestion := suggestion, rule := "complexity/" ++ rule
        metadata := metadata ++ [("function".toList, Value.text name)] }
    let signature : Text := "(" ++ briefParameters names ++ "):"
    let short : Text := "(...):"
    let complex ← s.maxComplexity.exceededBy complexity
    let deep ← s.maxNesting.exceededBy depth
    let long ← s.maxFunctionLines.exceededBy lines
    let many ← s.maxParameters.exceededBy names.length
    return (if complex then
        [issue "high_complexity" (if complexity ≤ 15 then .medium else .high)
          ("cyclomatic complexity of " ++ Text.ofNat complexity ++ " (max: "
            ++ s.maxComplexity.inText ++ ")") signature
          "Consider breaking this function into smaller, more focused functions"
          "high-complexity" [("complexity", .ofNat complexity)]]
        else [])
      ++ (if deep then
        [issue "deep_nesting" .medium
          ("nesting depth of " ++ Text.ofNat depth ++ " (max: " ++ s.maxNesting.inText ++ ")") short
          "Extract nested logic into separate functions or use early returns"
          "deep-nesting" [("nesting_depth", .ofNat depth)]]
        else [])
      ++ (if long then
        [issue "long_function" .low
          (Text.ofInt lines ++ " lines (max: " ++ s.maxFunctionLines.inText ++ ")") short
          "Break this function into smaller, single-purpose functions"
          "long-function" [("lines", .ofInt lines)]]
        else [])
      ++ (if many then
        [issue "too_many_params" .low
          (Text.ofNat names.length ++ " parameters (max: " ++ s.maxParameters.inText ++ ")")
          signature
          "Consider using a configuration object or breaking into smaller functions"
          "too-many-params" [("param_count", .ofNat names.length)]]
        else [])
  | _ => .ok []

/-- More methods than this make a class suspicious. -/
def manyMethods : Nat :=
  20

/-- The issues of one class. -/
def classIssues (path : Text) : Node → List Issue
  | .classDef span name _ _ body _ =>
    let methods := (body.filterMap Node.functionName?).length
    if manyMethods < methods then
      [{ type := "god_class", severity := .level .medium, file := path, line := span.line
         column := span.col
         message := "Class '" ++ name ++ "' has " ++ Text.ofNat methods
           ++ " methods, which may indicate a 'God Class'"
         code := "class " ++ name ++ ":"
         suggestion := "Consider splitting this class into smaller, focused classes"
         rule := "complexity/god-class"
         metadata := [("method_count", .ofNat methods), ("class", .text name)] }]
    else []
  | _ => []

/-- Long lines that cannot be broken: with an address in them, or imports. -/
def mayBeLong (line : Text) : Bool :=
  Text.contains line "http://" || Text.contains line "https://"
    || Text.startsWith (Text.strip line) "import " || Text.startsWith (Text.strip line) "from "

/-- The first characters of a text, with dots for the others. -/
def shortened (most : Nat) (t : Text) : Text :=
  if most < t.length then t.take most ++ "..." else t

/-- The issue of one line. -/
def lineIssues (limit : Setting Number) (path : Text) (number : Nat) (line : Text) :
    Except Failure (List Issue) := do
  if (← limit.exceededBy line.length) && !mayBeLong line then
    return [
      { type := "long_line", severity := .level .info, file := path, line := number
        column := limit.number
        message := "Line is " ++ Text.ofNat line.length ++ " characters (max: " ++ limit.inText
          ++ ")"
        code := shortened 80 line
        suggestion := "Break this line into multiple lines for better readability"
        rule := "complexity/long-line"
        metadata := [("length", .ofNat line.length)] }]
  else return []

/-- The issues of the lines of a source. -/
def lineLengthIssues (limit : Setting Number) (subject : Subject) :
    Except Failure (List Issue) := do
  return (← subject.numberedLines.mapM fun p => lineIssues limit subject.path p.1 p.2).flatten

/-- The issue of a source as a whole. -/
def fileLengthIssues (limit : Setting Number) (subject : Subject) :
    Except Failure (List Issue) := do
  let count := (Text.lines subject.source).length
  if ← limit.exceededBy count then
    return [
      { type := "large_file", severity := .level .low, file := subject.path, line := 1
        message := "File has " ++ Text.ofNat count ++ " lines (max: " ++ limit.inText ++ ")"
        suggestion := "Consider splitting this file into multiple modules"
        rule := "complexity/large-file"
        metadata := [("lines", .ofNat count)] }]
  else return []

/-- The issues of a source that has a tree. -/
def complexityIssues (s : Settings) (subject : Subject) (tree : Node) :
    Except Failure (List Issue) := do
  let nodes ← tree.walk.mapM fun n =>
    return (← functionIssues s subject.path n) ++ classIssues subject.path n
  return nodes.flatten ++ (← lineLengthIssues s.maxLineLength subject)
    ++ (← fileLengthIssues s.maxFileLines subject)

def complexity (s : Settings) : Analyzer :=
  .onTree "complexity" "Analyzes code complexity and maintainability" (complexityIssues s)

/-- The complexities of all functions of a tree. -/
def complexities (assertions : Bool) (tree : Node) : List Nat :=
  tree.walk.filterMap fun n => n.functionName?.map fun _ => cyclomatic assertions n

/-- The average with two decimal places; the whole number 0 where there is nothing. -/
def average (xs : List Nat) : Number :=
  if xs.isEmpty then 0
  else (Number.real (Number.divNat (.int (xs.foldl (· + ·) 0 : Nat)) xs.length)).roundTo 2

/-- Numbers about a source, with assertions counted as decisions or not. -/
def measure (assertions : Bool) (source : Text) (tree : Option Node) : Metrics :=
  let counts := countLines source none
  let values := (tree.map (complexities assertions)).getD []
  { linesOfCode := .int counts.code
    totalLines := counts.total
    blankLines := counts.blank
    commentLines := counts.comments
    functions := values.length
    classes := ((tree.map fun t => (t.walk.filterMap Node.className?).length).getD 0 : Nat)
    avgComplexity := average values
    maxComplexity := (values.foldl max 0 : Nat) }

/-- The numbers about a source that has a tree. -/
def overview (source : Text) : Value :=
  match treeOf source with
  | none => .record [("error", .text "Could not parse code")]
  | some tree =>
    let m := measure true source (some tree)
    .record
      [("total_lines", .number m.totalLines), ("code_lines", .number m.linesOfCode),
        ("blank_lines", .number m.blankLines), ("comment_lines", .number m.commentLines),
        ("functions", .number m.functions), ("classes", .number m.classes),
        ("avg_complexity", .number m.avgComplexity), ("max_complexity", .number m.maxComplexity)]

end CodeReview.Analysis
