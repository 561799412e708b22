import CodeReview.Source.Comment
import CodeReview.Source.Docstring
import CodeReview.Source.Parse
import CodeReview.Source.Render
import CodeReview.Text.Case

/-!
What a module defines and uses: its functions, classes, imports, variables and strings, each in the
order of a walk over the tree. Functions and classes are told with their decorators and bases in
writing, which fails for an expression that cannot be written.
-/

namespace CodeReview.Source

structure FunctionInfo where
  name : Text
  line : Nat
  endLine : Nat
  args : List Text
  decorators : List Text
  async : Bool
  docstring : Option Text

structure ClassInfo where
  name : Text
  line : Nat
  endLine : Nat
  bases : List Text
  methods : List Text
  docstring : Option Text

/-- An imported name. An import of a whole module has no source. -/
structure ImportInfo where
  /-- The module that the name is taken from, and how many levels up that is. -/
  source : Option (Text × Nat)
  name : Text
  asName : Option Text
  line : Nat

structure VariableInfo where
  name : Text
  line : Nat
  constant : Bool
  annotated : Bool

structure StringInfo where
  line : Nat
  column : Nat
  value : Text

namespace Node

def parameterName? : Node → Option Text
  | .parameter _ id _ => some id
  | _ => none

/-- The names of the parameters that may be given by position or by name. -/
def regularNames : Node → List Text
  | .parameters _ regular _ _ _ _ _ => regular.filterMap parameterName?
  | _ => []

def functionInfo? : Node → Except Failure (Option FunctionInfo)
  | .functionDef span async id params body decorators _ => do
    return some
      { name := id, line := span.line, endLine := span.endLine, args := params.regularNames
        decorators := ← decorators.mapM render, async := async, docstring := bodyDocstring body }
  | _ => .ok none

def functionName? : Node → Option Text
  | .functionDef _ _ id _ _ _ _ => some id
  | _ => none

def className? : Node → Option Text
  | .classDef _ id _ _ _ _ => some id
  | _ => none

/-- A base class that is a name or an attribute; others have no name. -/
def baseName? : Node → Except Failure (Option Text)
  | .name _ id _ => .ok (some id)
  | .attr s value id use => do return some (← render (.attr s value id use))
  | _ => .ok none

def classInfo? : Node → Except Failure (Option ClassInfo)
  | .classDef span id bases _ body _ => do
    return some
      { name := id, line := span.line, endLine := span.endLine
        bases := (← bases.mapM baseName?).filterMap fun b => b
        methods := body.filterMap functionName?, docstring := bodyDocstring body }
  | _ => .ok none

def importInfos : Node → List ImportInfo
  | .importStmt span names =>
    names.filterMap fun
      | .importName _ id asName =>
        some { source := none, name := id, asName := asName, line := span.line }
      | _ => none
  | .importFrom span source names level =>
    names.filterMap fun
      | .importName _ id asName =>
        some
          { source := some (source.getD [], level), name := id, asName := asName
            line := span.line }
      | _ => none
  | _ => []

def variableInfos : Node → List VariableInfo
  | .assign span targets _ =>
    targets.filterMap fun
      | .name _ id _ =>
        some { name := id, line := span.line, constant := Text.isAllUpper id, annotated := false }
      | _ => none
  | .annAssign span (.name _ id _) _ _ =>
    [{ name := id, line := span.line, constant := Text.isAllUpper id, annotated := true }]
  | _ => []

def stringInfo? : Node → Option StringInfo
  | .constant span (.text t _) => some { line := span.line, column := span.col, value := t }
  | _ => none

def functions (tree : Node) : Except Failure (List FunctionInfo) := do
  return (← tree.walk.mapM functionInfo?).filterMap fun f => f

def classes (tree : Node) : Except Failure (List ClassInfo) := do
  return (← tree.walk.mapM classInfo?).filterMap fun c => c

def imports (tree : Node) : List ImportInfo :=
  tree.walk.flatMap importInfos

def assigned (tree : Node) : List VariableInfo :=
  tree.walk.flatMap variableInfos

def strings (tree : Node) : List StringInfo :=
  tree.walk.filterMap stringInfo?

/-- The number of lines of the documentation string of a node. -/
def docstringSize (n : Node) : Nat :=
  match n.docstring with
  | some t => if t.isEmpty then 0 else t.countP (· = '\n') + 1
  | none => 0

/-- The number of lines of all documentation strings. -/
def docstringLines (tree : Node) : Nat :=
  tree.walk.foldl (fun count n => count + n.docstringSize) 0

end Node

/-- Numbers of lines by what they hold. -/
structure LineCounts where
  total : Nat
  blank : Nat
  comments : Nat
  code : Int
  docstrings : Nat

/-- A line whose first character that is not blank starts a comment. -/
def isCommentLine (line : Text) : Bool :=
  (Text.strip line).head? = some '#'

def countLines (source : Text) (tree : Option Node) : LineCounts :=
  let lines := Text.lines source
  let blank := lines.countP Text.allBlank
  let comments := lines.countP isCommentLine
  { total := lines.length
    blank := blank
    comments := comments
    code := (lines.length : Int) - blank - comments
    docstrings := (tree.map Node.docstringLines).getD 0 }

/-- A line by its number from one; there is nothing beyond the last one. -/
def lineAt (source : Text) (number : Int) : Text :=
  let lines := Text.lines source
  if 1 ≤ number && number ≤ lines.length then lines[(number - 1).toNat]?.getD [] else []

end CodeReview.Source
