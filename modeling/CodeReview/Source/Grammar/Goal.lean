import CodeReview.Source.Literal
import CodeReview.Source.Parser

/-!
The goals of the grammar, and what is common to its rules.

The rules call each other in circles. A rule therefore takes a `Grammar` that says how to reach
each goal one level deeper; the circle is closed by giving the rules a grammar of bounded depth.
-/

namespace CodeReview.Source

inductive Goal where
  | expression
  | starExpressions
  | named
  | starNamed
  | disjunction
  | inversion
  | bitwiseOr
  | factor
  | primary
  | statement
  | block
  | elif
  | pattern
  | patterns
  deriving DecidableEq

/-- Statements and blocks give several nodes, since one line may hold several statements. -/
abbrev Goal.Out : Goal → Type
  | .statement => List Node
  | .block => List Node
  | _ => Node

abbrev Grammar := (g : Goal) → Parser g.Out

namespace Grammar

open CodeReview.Source.Parser

/-- The place from a token to the last token taken. -/
def spanFrom (start : Token) : Parser Span :=
  fun _ s => .ok { line := start.line, col := start.col, endLine := s.endLine } s

/-- The number of brackets open after the last token taken. -/
def depth : Parser Nat :=
  fun _ s => .ok s.depth s

/-- A name in its normal form. -/
def identifier : Parser Text :=
  return Text.normalForm (← take Token.isName).text

/-- Whether the two next tokens satisfy two tests. -/
def seesPair (first second : Token → Bool) : Parser Bool :=
  lookahead do
    let _ ← take first
    let _ ← take second

/-- Items separated by commas, after the first item; a comma may stand at the end. The second
result says whether there was a comma. -/
def moreItems (item : Parser Node) (first : Node) : Parser (List Node × Bool) := do
  let found ← loop (fun acc => do
    let _ ← word ","
    return (← item) :: acc) [first]
  let trailing ← accept ","
  return (found.reverse, trailing || 1 < found.length)

/-! ## Targets of assignments -/

mutual

/-- An expression as a target that is assigned to or deleted. -/
def asTarget (use : Use) : Node → Option Node
  | .name s id _ => some (.name s id use)
  | .attr s value name _ => some (.attr s value name use)
  | .subscript s value index _ => some (.subscript s value index use)
  | .starred s value _ =>
    if use = .delete then none else (asTarget use value).map fun v => .starred s v use
  | .list s elements _ => (asTargets use elements).map fun es => .list s es use
  | .tuple s elements _ => (asTargets use elements).map fun es => .tuple s es use
  | _ => none

def asTargets (use : Use) : List Node → Option (List Node)
  | [] => some []
  | n :: ns =>
    match asTarget use n, asTargets use ns with
    | some m, some ms => some (m :: ms)
    | _, _ => none

end

/-- What is to be done with a target, for the search of what cannot be one. -/
inductive TargetRole where
  | assigned
  | looped
  | deleted

mutual

/-- The part of an expression that cannot be a target. -/
def badTarget? (role : TargetRole) : Node → Option Node
  | .list _ elements _ => badTargets? role elements
  | .tuple _ elements _ => badTargets? role elements
  | .starred s value u =>
    match role with
    | .deleted => some (.starred s value u)
    | _ => badTarget? role value
  | .compare s left ops comparators =>
    match role, ops with
    | .looped, .in :: _ => badTarget? role left
    | .looped, _ => none
    | _, _ => some (.compare s left ops comparators)
  | .name .. => none
  | .subscript .. => none
  | .attr .. => none
  | n => some n

def badTargets? (role : TargetRole) : List Node → Option Node
  | [] => none
  | n :: ns =>
    match badTarget? role n with
    | some bad => some bad
    | none => badTargets? role ns

end

/-- What an expression is called in messages. -/
def describe : Node → Text
  | .attr .. => "attribute"
  | .subscript .. => "subscript"
  | .starred .. => "starred"
  | .name .. => "name"
  | .list .. => "list"
  | .tuple .. => "tuple"
  | .lambda .. => "lambda"
  | .call .. => "function call"
  | .comprehension _ .list _ _ => "list comprehension"
  | .comprehension _ .set _ _ => "set comprehension"
  | .comprehension _ .generator _ _ => "generator expression"
  | .dictComprehension .. => "dict comprehension"
  | .yield .. => "yield expression"
  | .yieldFrom .. => "yield expression"
  | .await .. => "await expression"
  | .dict .. => "dict literal"
  | .set .. => "set display"
  | .joined .. => "f-string expression"
  | .formatted .. => "f-string expression"
  | .constant _ .none => "None"
  | .constant _ (.bool true) => "True"
  | .constant _ (.bool false) => "False"
  | .constant _ .ellipsis => "ellipsis"
  | .constant .. => "literal"
  | .compare .. => "comparison"
  | .ifExp .. => "conditional expression"
  | .named .. => "named expression"
  | _ => "expression"

/-- Reports what cannot be a target. -/
def refuseTarget (role : TargetRole) (n : Node) : Parser Unit :=
  match badTarget? role n with
  | none => pure ()
  | some bad =>
    match role with
    | .deleted => raiseAt bad.line (.cannotDelete (describe bad))
    | _ => raiseAt bad.line (.cannotAssign (describe bad))

end Grammar

end CodeReview.Source
