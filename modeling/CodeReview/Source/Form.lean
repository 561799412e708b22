import CodeReview.Source.Walk

/-!
The forms of a tree by their names.

A name stands for one form (`Return`), for a family of forms (`stmt`) or for all of them (`AST`).
Operators and the uses of names count as parts of a tree here, so `Node.parts` gives more than
`Node.children`.
-/

namespace CodeReview.Source

def Use.name : Use → Text
  | load => "Load"
  | store => "Store"
  | delete => "Del"

def BinaryOp.name : BinaryOp → Text
  | add => "Add"
  | sub => "Sub"
  | mult => "Mult"
  | matMult => "MatMult"
  | div => "Div"
  | mod => "Mod"
  | pow => "Pow"
  | leftShift => "LShift"
  | rightShift => "RShift"
  | bitOr => "BitOr"
  | bitXor => "BitXor"
  | bitAnd => "BitAnd"
  | floorDiv => "FloorDiv"

def UnaryOp.name : UnaryOp → Text
  | invert => "Invert"
  | not => "Not"
  | plus => "UAdd"
  | minus => "USub"

def BoolOp.name : BoolOp → Text
  | and => "And"
  | or => "Or"

def CompareOp.name : CompareOp → Text
  | eq => "Eq"
  | notEq => "NotEq"
  | lt => "Lt"
  | ltE => "LtE"
  | gt => "Gt"
  | gtE => "GtE"
  | is => "Is"
  | isNot => "IsNot"
  | «in» => "In"
  | notIn => "NotIn"

/-- A name and the family that it belongs to; some forms are in no family. -/
structure Form where
  name : Text
  family : Text := []
  deriving DecidableEq, Repr

namespace Node

/-- The form of a node. -/
def form : Node → Form
  | module _ => ⟨"Module", "mod"⟩
  | functionDef _ async .. => ⟨if async then "AsyncFunctionDef" else "FunctionDef", "stmt"⟩
  | classDef .. => ⟨"ClassDef", "stmt"⟩
  | returnStmt .. => ⟨"Return", "stmt"⟩
  | deleteStmt .. => ⟨"Delete", "stmt"⟩
  | assign .. => ⟨"Assign", "stmt"⟩
  | augAssign .. => ⟨"AugAssign", "stmt"⟩
  | annAssign .. => ⟨"AnnAssign", "stmt"⟩
  | forStmt _ async .. => ⟨if async then "AsyncFor" else "For", "stmt"⟩
  | whileStmt .. => ⟨"While", "stmt"⟩
  | ifStmt .. => ⟨"If", "stmt"⟩
  | withStmt _ async .. => ⟨if async then "AsyncWith" else "With", "stmt"⟩
  | matchStmt .. => ⟨"Match", "stmt"⟩
  | raiseStmt .. => ⟨"Raise", "stmt"⟩
  | tryStmt _ star .. => ⟨if star then "TryStar" else "Try", "stmt"⟩
  | assertStmt .. => ⟨"Assert", "stmt"⟩
  | importStmt .. => ⟨"Import", "stmt"⟩
  | importFrom .. => ⟨"ImportFrom", "stmt"⟩
  | scopeStmt _ outer _ => ⟨if outer then "Nonlocal" else "Global", "stmt"⟩
  | exprStmt .. => ⟨"Expr", "stmt"⟩
  | passStmt _ => ⟨"Pass", "stmt"⟩
  | breakStmt _ => ⟨"Break", "stmt"⟩
  | continueStmt _ => ⟨"Continue", "stmt"⟩
  | boolOp .. => ⟨"BoolOp", "expr"⟩
  | named .. => ⟨"NamedExpr", "expr"⟩
  | binary .. => ⟨"BinOp", "expr"⟩
  | unary .. => ⟨"UnaryOp", "expr"⟩
  | lambda .. => ⟨"Lambda", "expr"⟩
  | ifExp .. => ⟨"IfExp", "expr"⟩
  | dict .. => ⟨"Dict", "expr"⟩
  | set .. => ⟨"Set", "expr"⟩
  | comprehension _ .list .. => ⟨"ListComp", "expr"⟩
  | comprehension _ .set .. => ⟨"SetComp", "expr"⟩
  | comprehension _ .generator .. => ⟨"GeneratorExp", "expr"⟩
  | dictComprehension .. => ⟨"DictComp", "expr"⟩
  | await .. => ⟨"Await", "expr"⟩
  | yield .. => ⟨"Yield", "expr"⟩
  | yieldFrom .. => ⟨"YieldFrom", "expr"⟩
  | compare .. => ⟨"Compare", "expr"⟩
  | call .. => ⟨"Call", "expr"⟩
  | formatted .. => ⟨"FormattedValue", "expr"⟩
  | joined .. => ⟨"JoinedStr", "expr"⟩
  | constant .. => ⟨"Constant", "expr"⟩
  | attr .. => ⟨"Attribute", "expr"⟩
  | subscript .. => ⟨"Subscript", "expr"⟩
  | starred .. => ⟨"Starred", "expr"⟩
  | name .. => ⟨"Name", "expr"⟩
  | list .. => ⟨"List", "expr"⟩
  | tuple .. => ⟨"Tuple", "expr"⟩
  | slice .. => ⟨"Slice", "expr"⟩
  | clause .. => ⟨"comprehension", []⟩
  | handler .. => ⟨"ExceptHandler", "excepthandler"⟩
  | parameters .. => ⟨"arguments", []⟩
  | parameter .. => ⟨"arg", []⟩
  | keyword .. => ⟨"keyword", []⟩
  | importName .. => ⟨"alias", []⟩
  | withItem .. => ⟨"withitem", []⟩
  | matchCase .. => ⟨"match_case", []⟩
  | matchValue .. => ⟨"MatchValue", "pattern"⟩
  | matchSingleton .. => ⟨"MatchSingleton", "pattern"⟩
  | matchSequence .. => ⟨"MatchSequence", "pattern"⟩
  | matchMapping .. => ⟨"MatchMapping", "pattern"⟩
  | matchClass .. => ⟨"MatchClass", "pattern"⟩
  | matchStar .. => ⟨"MatchStar", "pattern"⟩
  | matchAs .. => ⟨"MatchAs", "pattern"⟩
  | matchOr .. => ⟨"MatchOr", "pattern"⟩

/-- The name that a node itself gives or brings in; none where its form has no such name. -/
def ownName? : Node → Option (Option Text)
  | functionDef _ _ id .. | classDef _ id .. | importName _ id _ => some (some id)
  | handler _ _ id _ | matchStar _ id | matchAs _ _ id => some id
  | _ => none

end Node

/-- A part of a tree: a node, or an operator or a use. -/
inductive Part where
  | node (n : Node)
  | mark (form : Form)

namespace Part

def form : Part → Form
  | node n => n.form
  | mark f => f

def node? : Part → Option Node
  | node n => some n
  | mark _ => none

end Part

/-- The parts directly below a node, in a fixed order for each form. -/
def Node.parts (n : Node) : List Part :=
  let use (u : Use) : Part := .mark ⟨u.name, "expr_context"⟩
  match n with
  | augAssign _ target op value => [.node target, .mark ⟨op.name, "operator"⟩, .node value]
  | binary _ left op right => [.node left, .mark ⟨op.name, "operator"⟩, .node right]
  | boolOp _ op values => .mark ⟨op.name, "boolop"⟩ :: values.map .node
  | unary _ op operand => [.mark ⟨op.name, "unaryop"⟩, .node operand]
  | compare _ left ops comparators =>
    .node left :: (ops.map fun op => .mark ⟨op.name, "cmpop"⟩) ++ comparators.map .node
  | attr _ value _ u => [.node value, use u]
  | subscript _ value index u => [.node value, .node index, use u]
  | starred _ value u => [.node value, use u]
  | name _ _ u => [use u]
  | list _ elements u | tuple _ elements u => elements.map .node ++ [use u]
  | n => n.children.map .node

/-- Some levels of parts, the given one first. -/
def Part.levels : Nat → List Part → List Part
  | 0, _ => []
  | _, [] => []
  | n + 1, level =>
    level ++ levels n (level.flatMap fun p => (p.node?.map Node.parts).getD [])

/-- All parts of a tree, level by level. -/
def Node.walkParts (n : Node) : List Part :=
  Part.levels (n.height + 1) [.node n]

/-- Whether a literal has one of the names that literals have by their values. -/
def Constant.hasName (c : Constant) (name : Text) : Bool :=
  match c with
  | .none | .bool _ => name = "NameConstant"
  | .ellipsis => name = "Ellipsis"
  | .int _ | .real _ | .imaginary _ => name = "Num"
  | .text .. => name = "Str"
  | .bytes _ => name = "Bytes"

/-- Whether a name stands for a part. -/
def Part.isA (p : Part) (name : Text) : Bool :=
  name = "AST" || p.form.name = name || p.form.family = name
    || match p with
      | .node (.constant _ c) => c.hasName name
      | _ => false

end CodeReview.Source
