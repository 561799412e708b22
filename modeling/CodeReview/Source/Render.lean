import CodeReview.Failure
import CodeReview.Number.Basic
import CodeReview.Source.Walk

/-!
Expressions written as source text again: one blank around operators, and parentheses only where
they are needed. A few expressions cannot be written: those with a whole number that has too many
digits, and those with a formatted text whose values take a backslash.
-/

namespace CodeReview.Source

/-- How tightly an expression binds, from an assignment expression to an atom. -/
inductive Binding where
  | named
  | tuple
  | yield
  | test
  | or
  | and
  | not
  | compare
  | bitOr
  | bitXor
  | bitAnd
  | shift
  | arith
  | term
  | factor
  | power
  | await
  | atom
  deriving DecidableEq

namespace Binding

def rank : Binding → Nat
  | named => 1
  | tuple => 2
  | yield => 3
  | test => 4
  | or => 5
  | and => 6
  | not => 7
  | compare => 8
  | bitOr => 9
  | bitXor => 10
  | bitAnd => 11
  | shift => 12
  | arith => 13
  | term => 14
  | factor => 15
  | power => 16
  | await => 17
  | atom => 18

/-- The rank above a rank; there is none above an atom. -/
def above (rank : Nat) : Nat :=
  min (rank + 1) 18

end Binding

namespace BinaryOp

def sign : BinaryOp → Text
  | add => "+"
  | sub => "-"
  | mult => "*"
  | matMult => "@"
  | div => "/"
  | mod => "%"
  | pow => "**"
  | leftShift => "<<"
  | rightShift => ">>"
  | bitOr => "|"
  | bitXor => "^"
  | bitAnd => "&"
  | floorDiv => "//"

def binding : BinaryOp → Binding
  | add | sub => .arith
  | mult | matMult | div | mod | floorDiv => .term
  | pow => .power
  | leftShift | rightShift => .shift
  | bitOr => .bitOr
  | bitXor => .bitXor
  | bitAnd => .bitAnd

end BinaryOp

namespace CompareOp

def sign : CompareOp → Text
  | eq => "=="
  | notEq => "!="
  | lt => "<"
  | ltE => "<="
  | gt => ">"
  | gtE => ">="
  | is => "is"
  | isNot => "is not"
  | CompareOp.in => "in"
  | notIn => "not in"

end CompareOp

namespace Render

/-- The quotes that a string literal may have, in the order in which they are preferred. -/
def allQuotes : List Text :=
  ["'", "\"", "\"\"\"", "'''"]

/-- A string literal with few escapes: the text between the quotes, and the quotes that fit. -/
def literal (quotes : List Text) (escapeBlanks : Bool) (t : Text) : Text × List Text :=
  let one (c : Char) : Text :=
    if !escapeBlanks && (c = '\n' || c = '\t') then [c]
    else if c = '\\' || !Text.isPrintable c then Text.escaped c
    else [c]
  let body := t.flatMap one
  let fit := if body.any (· = '\n') then quotes.filter (·.length = 3) else quotes
  let fit := fit.filter fun q => !Text.contains body q
  match fit with
  | [] =>
    let q := Text.quoted t
    let first := q.headD '\''
    (q.drop 1 |>.dropLast, [(quotes.find? fun q => q.any (· = first)).getD [first]])
  | _ =>
    match body.getLast? with
    | none => (body, fit)
    | some last =>
      let ends (q : Text) : Bool := q.head? = some last
      let sorted := fit.filter (!ends ·) ++ fit.filter ends
      if ends (sorted.headD []) then (body.dropLast ++ ['\\', last], sorted) else (body, sorted)

/-- A string literal without escapes of blanks. -/
def plainLiteral (t : Text) : Text :=
  let (body, quotes) := literal allQuotes false t
  let q := quotes.headD "'"
  q ++ body ++ q

/-- Floating-point numbers are written as usual, but an infinity as a number that is too large. -/
def real (x : Float) : Text :=
  let huge : Text := "1e309"
  let t := Text.replace (Number.realText x) "inf" huge
  Text.replace t "nan" ("(" ++ huge ++ "-" ++ huge ++ ")")

/-- The factor of an imaginary number: no point where there is no fraction. -/
def imaginary (x : Float) : Text :=
  let t := real x
  if Text.endsWith t ".0" then t.take (t.length - 2) else t

def constant (plain : Bool) : Constant → Except Failure Text
  | .none => .ok "None"
  | .bool b => .ok (if b then "True" else "False")
  | .ellipsis => .ok "..."
  | .int n => if (n : Number).tooLong then .error .tooManyDigits else .ok (Text.ofNat n)
  | .real x => .ok (real x)
  | .imaginary x => .ok (imaginary x ++ "j")
  | .text t marked =>
    .ok ((if marked then "u" else [] : Text) ++ if plain then plainLiteral t else Text.quoted t)
  | .bytes bs => .ok (Text.quotedBytes bs)

def commas (ts : List Text) : Text :=
  Text.join ", " ts

/-- Items of a tuple: one item alone is followed by a comma. -/
def tupleItems (ts : List Text) : Text :=
  match ts with
  | [t] => t ++ ","
  | ts => commas ts

def inParens (needed : Bool) (t : Text) : Text :=
  if needed then "(" ++ t ++ ")" else t

/-- The literal of a formatted string from its pieces. A piece is its text and whether it is
literal text. Quotes are chosen that fit all pieces. -/
def formattedLiteral (pieces : List (Text × Bool)) : Text :=
  let step (acc : Option (List Text × List Text)) (p : Text × Bool) :
      Option (List Text × List Text) :=
    match acc with
    | none => none
    | some (done, quotes) =>
      let (body, fit) := literal quotes p.2 p.1
      if fit.any quotes.contains then some (body :: done, fit) else none
  match pieces.foldl step (some ([], allQuotes)) with
  | some (done, quotes) =>
    let q := quotes.headD "'"
    q ++ done.reverse.flatten ++ q
  | none =>
    let bodies := pieces.map fun p =>
      let q := Text.quoted ('"' :: p.1)
      (q.drop 2).dropLast
    "'''" ++ bodies.flatten ++ "'''"

/-- Parameters with their defaults, the ones of the last parameters given. -/
def withDefaults (params : List Text) (defaults : List Text) : List Text :=
  let without := params.length - defaults.length
  params.take without
    ++ ((params.drop without).zip defaults).map fun (p, d) => p ++ "=" ++ d

/-- Writes a node. `plain` avoids backslashes, `rank` is the rank that the context asks for, and
the count bounds the height. -/
def node : Nat → Bool → Nat → Node → Except Failure Text
  | 0, _, _, _ => .ok []
  | n + 1, plain, rank, e =>
    let bound (r : Nat) (e : Node) : Except Failure Text := node n plain r e
    let test := Binding.test.rank
    let go (e : Node) : Except Failure Text := node n plain test e
    let atom (e : Node) : Except Failure Text := bound Binding.atom.rank e
    let parens (own : Binding) (t : Text) : Text := inParens (own.rank < rank) t
    let clauses (cs : List Node) : Except Failure Text := do return (← cs.mapM go).flatten
    match e with
    | .named _ target value => do
      return parens .named ((← atom target) ++ " := " ++ (← atom value))
    | .boolOp _ op values => do
      let own : Binding := match op with
        | .and => .and
        | .or => .or
      let w : Text := match op with
        | .and => " and "
        | .or => " or "
      let parts ← values.zipIdx.mapM fun (v, i) => bound (min (own.rank + i + 1) 18) v
      return parens own (Text.join w parts)
    | .binary _ left op right => do
      let r := op.binding.rank
      let l := if op = .pow then Binding.above r else r
      let u := if op = .pow then r else Binding.above r
      return parens op.binding ((← bound l left) ++ " " ++ op.sign ++ " " ++ (← bound u right))
    | .unary _ op operand =>
      match op with
      | .not => do return parens .not ("not " ++ (← bound Binding.not.rank operand))
      | .invert => do return parens .factor ("~" ++ (← bound Binding.factor.rank operand))
      | .plus => do return parens .factor ("+" ++ (← bound Binding.factor.rank operand))
      | .minus => do return parens .factor ("-" ++ (← bound Binding.factor.rank operand))
    | .lambda _ params body => do
      let ps ← go params
      return parens .test
        ("lambda" ++ (if ps.isEmpty then [] else ' ' :: ps) ++ ": " ++ (← go body))
    | .ifExp _ condition body orelse => do
      let tight := Binding.above test
      return parens .test
        ((← bound tight body) ++ " if " ++ (← bound tight condition) ++ " else " ++ (← go orelse))
    | .dict _ keys values => do
      let items ← (keys.zip values).mapM fun (k, v) => do
        match k with
        | some k => return (← go k) ++ ": " ++ (← go v)
        | none => return ("**" : Text) ++ (← bound Binding.bitOr.rank v)
      return "\x7b" ++ commas items ++ "\x7d"
    | .set _ elements => do return "\x7b" ++ commas (← elements.mapM go) ++ "\x7d"
    | .comprehension _ kind element cs => do
      let body := (← go element) ++ (← clauses cs)
      match kind with
      | .list => return "[" ++ body ++ "]"
      | .set => return "\x7b" ++ body ++ "\x7d"
      | .generator => return "(" ++ body ++ ")"
    | .dictComprehension _ key value cs => do
      return "\x7b" ++ (← go key) ++ ": " ++ (← go value) ++ (← clauses cs) ++ "\x7d"
    | .clause async target iter conditions => do
      let tight := Binding.above test
      let start : Text := if async then " async for " else " for "
      let target ← bound Binding.tuple.rank target
      let iter ← bound tight iter
      let conditions ← conditions.mapM fun c => do return (" if " : Text) ++ (← bound tight c)
      return start ++ target ++ " in " ++ iter ++ conditions.flatten
    | .await _ value => do return parens .await ("await " ++ (← atom value))
    | .yield _ value =>
      match value with
      | some v => do return parens .yield ("yield " ++ (← atom v))
      | none => return parens .yield "yield"
    | .yieldFrom _ value => do return parens .yield ("yield from " ++ (← atom value))
    | .compare _ left ops comparators => do
      let tight := Binding.above Binding.compare.rank
      let left ← bound tight left
      let parts ← (ops.zip comparators).mapM fun (o, c) => do
        return ' ' :: o.sign ++ ' ' :: (← bound tight c)
      return parens .compare (left ++ parts.flatten)
    | .call _ function args keywords => do
      return (← atom function) ++ "(" ++ commas (← (args ++ keywords).mapM go) ++ ")"
    | .keyword _ name value =>
      match name with
      | some k => do return k ++ "=" ++ (← go value)
      | none => do return "**" ++ (← go value)
    | .joined _ values => do
      let pieces ← values.mapM (piece n)
      if plain then
        return 'f' :: plainLiteral pieces.flatten
      else
        let literal (v : Node) : Bool := match v with
          | .constant .. => true
          | _ => false
        return 'f' :: formattedLiteral (pieces.zip (values.map literal))
    | .formatted .. => piece n e
    | .constant _ c => constant plain c
    | .attr _ value name _ => do
      let gap : Text := match value with
        | .constant _ (.int _) => " "
        | .constant _ (.bool _) => " "
        | _ => []
      return (← atom value) ++ gap ++ "." ++ name
    | .subscript _ value index _ => do
      let value ← atom value
      let inner ← match index with
        | .tuple _ (e :: es) _ => tupleItems <$> (e :: es).mapM go
        | _ => go index
      return value ++ "[" ++ inner ++ "]"
    | .starred _ value _ => do return '*' :: (← bound Binding.bitOr.rank value)
    | .name _ id _ => .ok id
    | .list _ elements _ => do return "[" ++ commas (← elements.mapM go) ++ "]"
    | .tuple _ elements _ => do
      let items := tupleItems (← elements.mapM go)
      return inParens (elements.isEmpty || Binding.tuple.rank < rank) items
    | .slice _ lower upper step => do
      let limit (b : Option Node) : Except Failure Text := match b with
        | some e => go e
        | none => .ok []
      let last : Except Failure Text := match step with
        | some e => do return ':' :: (← go e)
        | none => .ok []
      return (← limit lower) ++ ":" ++ (← limit upper) ++ (← last)
    | .parameter _ name hint =>
      match hint with
      | some a => do return name ++ ": " ++ (← go a)
      | none => .ok name
    | .parameters positional regular rest keywordOnly keywordDefaults keywordRest defaults => do
      let all := withDefaults (← (positional ++ regular).mapM go) (← defaults.mapM go)
      let all :=
        if positional.isEmpty then all
        else all.take positional.length ++ [['/']] ++ all.drop positional.length
      let star : List Text ← match rest with
        | some p => do pure ['*' :: (← go p)]
        | none => pure (if keywordOnly.isEmpty then [] else [['*']])
      let only ← (keywordOnly.zip keywordDefaults).mapM fun (p, d) => do
        match d with
        | some d => return (← go p) ++ "=" ++ (← go d)
        | none => go p
      let double : List Text ← match keywordRest with
        | some p => do pure [("**" : Text) ++ (← go p)]
        | none => pure []
      return commas (all ++ star ++ only ++ double)
    | _ => .ok []
where
  /-- A piece of a formatted string. Braces in literal text are doubled. -/
  piece : Nat → Node → Except Failure Text
    | 0, _ => .ok []
    | n + 1, .joined _ values => do return (← values.mapM (piece n)).flatten
    | _, .constant _ (.text t _) =>
      .ok (Text.replace (Text.replace t "\x7b" "\x7b\x7b") "\x7d" "\x7d\x7d")
    | n + 1, .formatted _ value conversion format => do
      let body ← node n true (Binding.above Binding.test.rank) value
      if body.any (· = '\\') then throw .backslashNeeded
      let gap : Text := if body.head? = some '\x7b' then " " else []
      let mark : Text := match conversion with
        | some c => ['!', c]
        | none => []
      let layout : Except Failure Text := match format with
        | some f => do return ':' :: (← piece n f)
        | none => .ok []
      return "\x7b" ++ gap ++ body ++ mark ++ (← layout) ++ "\x7d"
    | _, _ => .ok []

end Render

/-- An expression as source text. -/
def Node.render (e : Node) : Except Failure Text :=
  Render.node (2 * e.height + 2) false Binding.test.rank e

end CodeReview.Source
