import CodeReview.Failure
import CodeReview.Source.Outline

/-!
Languages that sources are written in, and what reading a source of a language gives.
-/

namespace CodeReview.Source

structure Language where
  /-- The name of the reader of this language. -/
  reader : Text
  name : Text
  /-- The ends of the names of its files. -/
  extensions : List Text

namespace Language

def python : Language :=
  { reader := "PythonParser", name := "python", extensions := [".py", ".pyi"] }

def handles (l : Language) (path : Text) : Bool :=
  l.extensions.any fun e => Text.endsWith path e

def describe (l : Language) : Text :=
  l.reader ++ "(language='" ++ l.name ++ "')"

end Language

/-- A source that has been read. -/
structure ReadSource where
  tree : Option Node
  errors : List Text
  comments : List Comment

/-- Read without errors. -/
def ReadSource.valid (s : ReadSource) : Bool :=
  s.tree.isSome && s.errors.isEmpty

def Diagnostic.report (d : Diagnostic) : Text :=
  "SyntaxError at line " ++ Text.ofNat d.line ++ ": " ++ d.fault.message

/-- The tree of a source, if it has one. -/
def treeOf (source : Text) : Option Node :=
  (parse source).tree?

/-- What is found in the tree of a source; there is nothing in a faulty one. -/
def findIn {α : Type} (source : Text) (find : Node → List α) : List α :=
  ((treeOf source).map find).getD []

/-- The functions of a source; there are none in a faulty one. -/
def functionsOf (source : Text) : Except Failure (List FunctionInfo) :=
  match treeOf source with
  | some tree => tree.functions
  | none => .ok []

/-- The classes of a source; there are none in a faulty one. -/
def classesOf (source : Text) : Except Failure (List ClassInfo) :=
  match treeOf source with
  | some tree => tree.classes
  | none => .ok []

def commentsOf (source : Text) : Except Failure (List Comment) :=
  match Comment.all? source with
  | some cs => .ok cs
  | none => .error .commentsLost

/-- What is said about a text that is no source; one with a NUL character has no faulty line. -/
def Parsed.errors : Parsed → List Text
  | .tree _ => []
  | .faulty d => [d.report]
  | .unreadable => ["SyntaxError at line None: source code string cannot contain null bytes"]

def readSource (source : Text) : Except Failure ReadSource := do
  let parsed := parse source
  return { tree := parsed.tree?, errors := parsed.errors, comments := ← commentsOf source }

/-- All that `Outline` finds in a source. -/
structure Structure where
  functions : List FunctionInfo
  classes : List ClassInfo
  imports : List ImportInfo
  assigned : List VariableInfo
  comments : List Comment
  strings : List StringInfo

def structureOf (source : Text) : Except Failure Structure := do
  return {
    functions := ← functionsOf source
    classes := ← classesOf source
    imports := findIn source Node.imports
    assigned := findIn source Node.assigned
    comments := ← commentsOf source
    strings := findIn source Node.strings }

end CodeReview.Source
