import CodeReview.Text.Basic

/-!
The syntax tree of a Python module.

Every form of the language is a constructor of one type, so that a walk over a tree needs one
function, `Node.children`. Forms that differ only in a word (`def` and `async def`, `global` and
`nonlocal`) share a constructor.
-/

namespace CodeReview.Source

/-- Where a node stands: its first line, the byte at which it starts in that line, and its last
line. -/
structure Span where
  line : Nat
  col : Nat
  endLine : Nat
  deriving DecidableEq, Repr, Inhabited

/-- Whether an expression is read, assigned to or deleted. -/
inductive Use where
  | load
  | store
  | delete
  deriving DecidableEq, Repr, Inhabited

inductive BinaryOp where
  | add
  | sub
  | mult
  | matMult
  | div
  | mod
  | pow
  | leftShift
  | rightShift
  | bitOr
  | bitXor
  | bitAnd
  | floorDiv
  deriving DecidableEq, Repr, Inhabited

inductive UnaryOp where
  | invert
  | not
  | plus
  | minus
  deriving DecidableEq, Repr, Inhabited

inductive BoolOp where
  | and
  | or
  deriving DecidableEq, Repr, Inhabited

inductive CompareOp where
  | eq
  | notEq
  | lt
  | ltE
  | gt
  | gtE
  | is
  | isNot
  | in
  | notIn
  deriving DecidableEq, Repr, Inhabited

/-- A literal value. -/
inductive Constant where
  | none
  | bool (b : Bool)
  | ellipsis
  | int (n : Nat)
  | real (x : Float)
  | imaginary (x : Float)
  | text (t : Text) (marked : Bool)
  | bytes (bs : List UInt8)
  deriving Repr, Inhabited

/-- Which kind of collection a comprehension builds. -/
inductive Collection where
  | list
  | set
  | generator
  deriving DecidableEq, Repr, Inhabited

inductive Node where
  | module (body : List Node)
  -- statements
  | functionDef (span : Span) (async : Bool) (name : Text) (params : Node)
      (body decorators : List Node) (returns : Option Node)
  | classDef (span : Span) (name : Text) (bases keywords body decorators : List Node)
  | returnStmt (span : Span) (value : Option Node)
  | deleteStmt (span : Span) (targets : List Node)
  | assign (span : Span) (targets : List Node) (value : Node)
  | augAssign (span : Span) (target : Node) (op : BinaryOp) (value : Node)
  | annAssign (span : Span) (target hint : Node) (value : Option Node)
  | forStmt (span : Span) (async : Bool) (target iter : Node) (body orelse : List Node)
  | whileStmt (span : Span) (test : Node) (body orelse : List Node)
  | ifStmt (span : Span) (test : Node) (body orelse : List Node)
  | withStmt (span : Span) (async : Bool) (items body : List Node)
  | matchStmt (span : Span) (subject : Node) (cases : List Node)
  | raiseStmt (span : Span) (exception cause : Option Node)
  | tryStmt (span : Span) (star : Bool) (body handlers orelse final : List Node)
  | assertStmt (span : Span) (test : Node) (message : Option Node)
  | importStmt (span : Span) (names : List Node)
  | importFrom (span : Span) (source : Option Text) (names : List Node) (level : Nat)
  | scopeStmt (span : Span) (outer : Bool) (names : List Text)
  | exprStmt (span : Span) (value : Node)
  | passStmt (span : Span)
  | breakStmt (span : Span)
  | continueStmt (span : Span)
  -- expressions
  | boolOp (span : Span) (op : BoolOp) (values : List Node)
  | named (span : Span) (target value : Node)
  | binary (span : Span) (left : Node) (op : BinaryOp) (right : Node)
  | unary (span : Span) (op : UnaryOp) (operand : Node)
  | lambda (span : Span) (params body : Node)
  | ifExp (span : Span) (test body orelse : Node)
  | dict (span : Span) (keys : List (Option Node)) (values : List Node)
  | set (span : Span) (elements : List Node)
  | comprehension (span : Span) (kind : Collection) (element : Node) (clauses : List Node)
  | dictComprehension (span : Span) (key value : Node) (clauses : List Node)
  | await (span : Span) (value : Node)
  | yield (span : Span) (value : Option Node)
  | yieldFrom (span : Span) (value : Node)
  | compare (span : Span) (left : Node) (ops : List CompareOp) (comparators : List Node)
  | call (span : Span) (function : Node) (args keywords : List Node)
  | formatted (span : Span) (value : Node) (conversion : Option Char) (format : Option Node)
  | joined (span : Span) (values : List Node)
  | constant (span : Span) (value : Constant)
  | attr (span : Span) (value : Node) (name : Text) (use : Use)
  | subscript (span : Span) (value index : Node) (use : Use)
  | starred (span : Span) (value : Node) (use : Use)
  | name (span : Span) (id : Text) (use : Use)
  | list (span : Span) (elements : List Node) (use : Use)
  | tuple (span : Span) (elements : List Node) (use : Use)
  | slice (span : Span) (lower upper step : Option Node)
  -- parts of statements and expressions
  | clause (async : Bool) (target iter : Node) (conditions : List Node)
  | handler (span : Span) (type : Option Node) (name : Option Text) (body : List Node)
  | parameters (positional regular : List Node) (rest : Option Node) (keywordOnly : List Node)
      (keywordDefaults : List (Option Node)) (keywordRest : Option Node) (defaults : List Node)
  | parameter (span : Span) (name : Text) (hint : Option Node)
  | keyword (span : Span) (name : Option Text) (value : Node)
  | importName (span : Span) (name : Text) (asName : Option Text)
  | withItem (context : Node) (target : Option Node)
  | matchCase (pattern : Node) (guard : Option Node) (body : List Node)
  -- patterns
  | matchValue (span : Span) (value : Node)
  | matchSingleton (span : Span) (value : Constant)
  | matchSequence (span : Span) (patterns : List Node)
  | matchMapping (span : Span) (keys patterns : List Node) (rest : Option Text)
  | matchClass (span : Span) (type : Node) (patterns : List Node) (names : List Text)
      (keywordPatterns : List Node)
  | matchStar (span : Span) (name : Option Text)
  | matchAs (span : Span) (pattern : Option Node) (name : Option Text)
  | matchOr (span : Span) (patterns : List Node)
  deriving Inhabited

namespace Node

/-- The place of a node. Modules, parameter lists, clauses of comprehensions, items of `with` and
cases of `match` have none of their own. -/
def span? : Node → Option Span
  | module .. | clause .. | parameters .. | withItem .. | matchCase .. => none
  | functionDef s .. | classDef s .. | returnStmt s _ | deleteStmt s _ | assign s ..
  | augAssign s .. | annAssign s .. | forStmt s .. | whileStmt s .. | ifStmt s .. | withStmt s ..
  | matchStmt s .. | raiseStmt s .. | tryStmt s .. | assertStmt s .. | importStmt s ..
  | importFrom s .. | scopeStmt s .. | exprStmt s _ | passStmt s | breakStmt s | continueStmt s
  | boolOp s .. | named s .. | binary s .. | unary s .. | lambda s .. | ifExp s .. | dict s ..
  | set s _ | comprehension s .. | dictComprehension s .. | await s _ | yield s _ | yieldFrom s _
  | compare s .. | call s .. | formatted s .. | joined s _ | constant s _ | attr s ..
  | subscript s .. | starred s .. | name s .. | list s .. | tuple s .. | slice s .. | handler s ..
  | parameter s .. | keyword s .. | importName s .. | matchValue s _ | matchSingleton s _
  | matchSequence s _ | matchMapping s .. | matchClass s .. | matchStar s _ | matchAs s ..
  | matchOr s _ => some s

def span (n : Node) : Span :=
  n.span?.getD { line := 0, col := 0, endLine := 0 }

def line (n : Node) : Nat :=
  n.span.line

/-- The nodes directly below a node, in a fixed order for each form. -/
def children : Node → List Node
  | module body => body
  | functionDef _ _ _ params body decorators returns =>
    params :: (body ++ decorators ++ returns.toList)
  | classDef _ _ bases keywords body decorators => bases ++ keywords ++ body ++ decorators
  | returnStmt _ value => value.toList
  | deleteStmt _ targets => targets
  | assign _ targets value => targets ++ [value]
  | augAssign _ target _ value => [target, value]
  | annAssign _ target hint value => [target, hint] ++ value.toList
  | forStmt _ _ target iter body orelse => [target, iter] ++ body ++ orelse
  | whileStmt _ test body orelse => test :: (body ++ orelse)
  | ifStmt _ test body orelse => test :: (body ++ orelse)
  | withStmt _ _ items body => items ++ body
  | matchStmt _ subject cases => subject :: cases
  | raiseStmt _ exception cause => exception.toList ++ cause.toList
  | tryStmt _ _ body handlers orelse final => body ++ handlers ++ orelse ++ final
  | assertStmt _ test message => test :: message.toList
  | importStmt _ names => names
  | importFrom _ _ names _ => names
  | scopeStmt .. => []
  | exprStmt _ value => [value]
  | passStmt _ => []
  | breakStmt _ => []
  | continueStmt _ => []
  | boolOp _ _ values => values
  | named _ target value => [target, value]
  | binary _ left _ right => [left, right]
  | unary _ _ operand => [operand]
  | lambda _ params body => [params, body]
  | ifExp _ test body orelse => [test, body, orelse]
  | dict _ keys values => keys.filterMap id ++ values
  | set _ elements => elements
  | comprehension _ _ element clauses => element :: clauses
  | dictComprehension _ key value clauses => key :: value :: clauses
  | await _ value => [value]
  | yield _ value => value.toList
  | yieldFrom _ value => [value]
  | compare _ left _ comparators => left :: comparators
  | call _ function args keywords => function :: (args ++ keywords)
  | formatted _ value _ format => value :: format.toList
  | joined _ values => values
  | constant .. => []
  | attr _ value _ _ => [value]
  | subscript _ value index _ => [value, index]
  | starred _ value _ => [value]
  | name .. => []
  | list _ elements _ => elements
  | tuple _ elements _ => elements
  | slice _ lower upper step => lower.toList ++ upper.toList ++ step.toList
  | clause _ target iter conditions => target :: iter :: conditions
  | handler _ type _ body => type.toList ++ body
  | parameters positional regular rest keywordOnly keywordDefaults keywordRest defaults =>
    positional ++ regular ++ rest.toList ++ keywordOnly ++ keywordDefaults.filterMap id
      ++ keywordRest.toList ++ defaults
  | parameter _ _ hint => hint.toList
  | keyword _ _ value => [value]
  | importName .. => []
  | withItem context target => context :: target.toList
  | matchCase pattern guard body => pattern :: (guard.toList ++ body)
  | matchValue _ value => [value]
  | matchSingleton .. => []
  | matchSequence _ patterns => patterns
  | matchMapping _ keys patterns _ => keys ++ patterns
  | matchClass _ type patterns _ keywordPatterns => type :: (patterns ++ keywordPatterns)
  | matchStar .. => []
  | matchAs _ pattern _ => pattern.toList
  | matchOr _ patterns => patterns

end Node

end CodeReview.Source
