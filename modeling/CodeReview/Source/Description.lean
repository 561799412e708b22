import CodeReview.Source.Language
import CodeReview.Source.Tally
import CodeReview.Value

/-!
What is found in a source, as values.
-/

namespace CodeReview.Source

def Comment.toValue (c : Comment) : Value :=
  .record
    [("line", .ofNat c.line), ("column", .ofNat c.column), ("text", .text c.text),
      ("type", .text "line")]

def FunctionInfo.toValue (f : FunctionInfo) : Value :=
  .record
    [("name", .text f.name), ("line", .ofNat f.line), ("end_line", .ofNat f.endLine),
      ("args", .texts f.args), ("decorators", .texts f.decorators), ("is_async", .bool f.async),
      ("docstring", .ofOption .text f.docstring)]

def ClassInfo.toValue (c : ClassInfo) : Value :=
  .record
    [("name", .text c.name), ("line", .ofNat c.line), ("end_line", .ofNat c.endLine),
      ("bases", .texts c.bases), ("methods", .texts c.methods),
      ("docstring", .ofOption .text c.docstring)]

def ImportInfo.toValue (i : ImportInfo) : Value :=
  match i.source with
  | none =>
    .record
      [("type", .text "import"), ("module", .text i.name), ("alias", .ofOption .text i.asName),
        ("line", .ofNat i.line)]
  | some (source, level) =>
    .record
      [("type", .text "from"), ("module", .text source), ("name", .text i.name),
        ("alias", .ofOption .text i.asName), ("line", .ofNat i.line), ("level", .ofNat level)]

/-- A variable without an annotation does not say so. -/
def VariableInfo.toValue (v : VariableInfo) : Value :=
  let annotation : List (String × Value) :=
    if v.annotated then [("has_annotation", .bool true)] else []
  .record
    ([("name", .text v.name), ("line", .ofNat v.line), ("is_constant", .bool v.constant)]
      ++ annotation)

def StringInfo.toValue (s : StringInfo) : Value :=
  .record [("line", .ofNat s.line), ("column", .ofNat s.column), ("value", .text s.value)]

def Structure.toValue (s : Structure) : Value :=
  .record
    [("functions", .list (s.functions.map FunctionInfo.toValue)),
      ("classes", .list (s.classes.map ClassInfo.toValue)),
      ("imports", .list (s.imports.map ImportInfo.toValue)),
      ("variables", .list (s.assigned.map VariableInfo.toValue)),
      ("comments", .list (s.comments.map Comment.toValue)),
      ("strings", .list (s.strings.map StringInfo.toValue))]

def LineTally.toValue (t : LineTally) : Value :=
  .record
    [("total", .ofNat t.total), ("blank", .ofNat t.blank), ("comment", .ofNat t.comments),
      ("code", .ofNat t.code)]

def LineCounts.toValue (c : LineCounts) : Value :=
  .record
    [("total", .ofNat c.total), ("blank", .ofNat c.blank), ("comments", .ofNat c.comments),
      ("code", .ofInt c.code), ("docstrings", .ofNat c.docstrings)]

/-- What is said about a fault where the source has no name. -/
def Diagnostic.inUnknown (d : Diagnostic) : Text :=
  d.fault.message ++ " (<unknown>, line " ++ Text.ofNat d.line ++ ")"

end CodeReview.Source
