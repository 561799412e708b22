import CodeReview.Source.Node
import CodeReview.Text.Blank

/-!
Documentation strings: a text that is the first statement of a module, a class or a function, with
the common indentation of its lines taken away.
-/

namespace CodeReview.Source

namespace Docstring

/-- Replaces tabs by blanks up to the next multiple of eight columns. -/
def expandTabs : Nat → Text → Text
  | _, [] => []
  | col, c :: cs =>
    if c = '\t' then
      let width := 8 - col % 8
      List.replicate width ' ' ++ expandTabs (col + width) cs
    else if c = '\n' || c = '\x0d' then c :: expandTabs 0 cs
    else c :: expandTabs (col + 1) cs

def indentOf (line : Text) : Nat :=
  line.length - (Text.stripLeft line).length

/-- The least indentation of the lines that are not blank. -/
def margin (lines : List Text) : Option Nat :=
  ((lines.filter fun l => !Text.allBlank l).map indentOf).min?

/-- Takes the common indentation of all lines but the first away, and blank lines at both ends. -/
def clean (t : Text) : Text :=
  match Text.lines (expandTabs 0 t) with
  | [] => []
  | first :: rest =>
    let rest := match margin rest with
      | some m => rest.map (·.drop m)
      | none => rest
    let all := Text.stripLeft first :: rest
    let kept := (all.reverse.dropWhile (·.isEmpty)).reverse
    Text.unlines (kept.dropWhile (·.isEmpty))

end Docstring

/-- The text at the start of a body. -/
def bodyDocstring : List Node → Option Text
  | .exprStmt _ (.constant _ (.text t _)) :: _ => some (Docstring.clean t)
  | _ => none

/-- The documentation of a module, a class or a function. -/
def Node.docstring : Node → Option Text
  | .module body => bodyDocstring body
  | .functionDef _ _ _ _ body _ _ => bodyDocstring body
  | .classDef _ _ _ _ body _ => bodyDocstring body
  | _ => none

end CodeReview.Source
