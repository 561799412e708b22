import CodeReview.Source.Grammar.Formatted
import CodeReview.Source.Grammar.Parameters

/-!
Expressions, from the ones that bind tightest to lists of expressions.
-/

namespace CodeReview.Source.Grammar

open CodeReview.Source.Parser

/-! ## Clauses of comprehensions -/

/-- A target of a loop: a name, an attribute, an item, or a list of these, one of them starred. -/
def loopTarget (g : Grammar) : Parser Node := do
  let start ← peek
  let item : Parser Node := do
    let t ← peek
    if t.isWord "*" then
      let _ ← next
      let value ← g .primary
      match asTarget .store value with
      | some v => return .starred (← spanFrom t) v .store
      | none => fail
    else
      match asTarget .store (← g .primary) with
      | some v => return v
      | none => fail
  let first ← item
  let (items, several) ← moreItems item first
  if several then return .tuple (← spanFrom start) items .store else return first

/-- A clause `for … in …` with its conditions. -/
def forClause (g : Grammar) : Parser Node := do
  let async ← accept "async"
  let _ ← word "for"
  let target ← optional do
    let t ← loopTarget g
    let _ ← word "in"
    return t
  match target with
  | none =>
    whenDiagnosing do
      match ← ahead (g .starExpressions) with
      | some e => refuseTarget .looped e
      | none => pure ()
    fail
  | some target =>
    let iter ← g .disjunction
    let conditions ← many do
      let _ ← word "if"
      g .disjunction
    return .clause async target iter conditions

def forClauses (g : Grammar) : Parser (List Node) :=
  many1 (forClause g)

def seesFor : Parser Bool :=
  seesAny ["for", "async"]

/-! ## Bracketed forms -/

/-- Reports a comprehension that unpacks, or whose target is a list without parentheses. -/
def diagnoseComprehension (g : Grammar) (first : Node) (square : Bool) :
    Parser Unit := do
  match first with
  | .starred .. =>
    if ← lookahead (forClauses g) then
      raiseAt first.line (.unpackedComprehension false)
  | _ => pure ()
  if square then
    let forgotten ← lookahead do
      let _ ← word ","
      let _ ← optional do
        let item ← g .starNamed
        moreItems (g .starNamed) item
      forClauses g
    if forgotten then raiseAt first.line .comprehensionTarget

def yieldExpression (g : Grammar) : Parser Node := do
  let start ← word "yield"
  if ← accept "from" then
    let value ← g .expression
    return .yieldFrom (← spanFrom start) value
  else
    let value ← optional (g .starExpressions)
    return .yield (← spanFrom start) value

/-- What stands in parentheses: a tuple, a generator, or one expression. -/
def parenthesized (g : Grammar) : Parser Node := do
  let start ← word "("
  if ← accept ")" then return .tuple (← spanFrom start) [] .load
  else if ← sees "yield" then
    let value ← yieldExpression g
    let _ ← word ")"
    return value
  else
    whenDiagnosing do
      if ← sees "**" then
        let t ← peek
        let doubled ← lookahead do
          let _ ← word "**"
          let _ ← g .expression
          word ")"
        if doubled then raiseAt t.line (.starredHere true)
    let first ← g .starNamed
    if ← sees "," then
      let (items, _) ← moreItems (g .starNamed) first
      let _ ← word ")"
      return .tuple (← spanFrom start) items .load
    else if ← seesFor then
      whenDiagnosing (diagnoseComprehension g first false)
      match first with
      | .starred .. => fail
      | _ =>
        let clauses ← forClauses g
        let _ ← word ")"
        return .comprehension (← spanFrom start) .generator first clauses
    else
      let _ ← word ")"
      match first with
      | .starred .. =>
        if ← diagnosing then raiseAt first.line (.starredHere false) else fail
      | _ => return first

/-- What stands in square brackets: a list or a comprehension. -/
def bracketed (g : Grammar) : Parser Node := do
  let start ← word "["
  if ← accept "]" then return .list (← spanFrom start) [] .load
  else
    let first ← g .starNamed
    if ← seesFor then
      whenDiagnosing (diagnoseComprehension g first true)
      match first with
      | .starred .. => fail
      | _ =>
        let clauses ← forClauses g
        let _ ← word "]"
        return .comprehension (← spanFrom start) .list first clauses
    else
      whenDiagnosing (diagnoseComprehension g first true)
      let (items, _) ← moreItems (g .starNamed) first
      let _ ← word "]"
      return .list (← spanFrom start) items .load

/-- A key with its value, or an unpacked mapping. -/
def keyValue (g : Grammar) : Parser (Option Node × Node) := do
  if ← accept "**" then
    return (none, ← g .bitwiseOr)
  else
    let key ← g .expression
    let _ ← word ":"
    return (some key, ← g .expression)

/-- Reports a key without a value, or one whose value is starred. -/
def diagnoseValue (g : Grammar) (colon : Token) : Parser Unit := do
  if ← sees "*" then
    let t ← peek
    let starred ← lookahead do
      let _ ← word "*"
      g .bitwiseOr
    if starred then raiseAt t.line .starredDictionaryValue
  if ← seesAny ["\x7d", ","] then raiseAt colon.line .dictionaryValue

/-- Reports a faulty entry of a dictionary after its last good entry. -/
def diagnoseEntry (g : Grammar) : Parser Unit := do
  let _ ← optional do
    let _ ← word ","
    let key ← g .expression
    let t ← peek
    if t.isWord ":" then
      let _ ← next
      diagnoseValue g t
    else raiseAt key.line .dictionaryKey
  pure ()

/-- The entries of a dictionary after its first entry. -/
def dictEntries (g : Grammar) (start : Token) (first : Option Node × Node) : Parser Node := do
  let entries ← loop (fun acc => do
    let _ ← word ","
    return (← keyValue g) :: acc) [first]
  let closed ← optional do
    let _ ← accept ","
    word "\x7d"
  match closed with
  | some _ =>
    let entries := entries.reverse
    return .dict (← spanFrom start) (entries.map (·.1)) (entries.map (·.2))
  | none =>
    whenDiagnosing do
      let _ ← ahead (diagnoseEntry g)
    fail

/-- What stands in braces: a dictionary, a set, or a comprehension of either. -/
def braced (g : Grammar) : Parser Node := do
  let start ← word "\x7b"
  if ← accept "\x7d" then return .dict (← spanFrom start) [] []
  else if ← sees "**" then
    let first ← keyValue g
    if ← seesFor then
      whenDiagnosing do
        if ← lookahead (forClauses g) then
          raiseAt first.2.line (.unpackedComprehension true)
      fail
    else dictEntries g start first
  else
    let naming ← seesPair Token.isName (·.isWord ":=")
    let first ← g .starNamed
    let t ← peek
    if t.isWord ":" then
      match first, naming with
      | .starred .., _ | _, true => fail
      | _, false => pure ()
      let _ ← next
      whenDiagnosing (diagnoseValue g t)
      let value ← g .expression
      if ← seesFor then
        let clauses ← forClauses g
        let _ ← word "\x7d"
        return .dictComprehension (← spanFrom start) first value clauses
      else dictEntries g start (some first, value)
    else if ← seesFor then
      whenDiagnosing (diagnoseComprehension g first true)
      match first with
      | .starred .. => fail
      | _ =>
        let clauses ← forClauses g
        let _ ← word "\x7d"
        return .comprehension (← spanFrom start) .set first clauses
    else
      whenDiagnosing (diagnoseComprehension g first true)
      let (items, _) ← moreItems (g .starNamed) first
      let _ ← word "\x7d"
      return .set (← spanFrom start) items

/-! ## Atoms -/

/-- Names, literals and bracketed forms. -/
def atom (g : Grammar) : Parser Node := do
  let t ← peek
  match t.kind with
  | .name =>
    let id ← identifier
    return .name (← spanFrom t) id .load
  | .number =>
    let _ ← next
    match Literal.number t.text with
    | .ok c => return .constant (← spanFrom t) c
    | .error f => raiseAt t.line f
  | .string => strings g
  | .keyword =>
    let constant (c : Constant) : Parser Node := do
      let _ ← next
      return .constant (← spanFrom t) c
    if t.isWord "True" then constant (.bool true)
    else if t.isWord "False" then constant (.bool false)
    else if t.isWord "None" then constant .none
    else fail
  | .operator =>
    if t.isWord "(" then parenthesized g
    else if t.isWord "[" then bracketed g
    else if t.isWord "\x7b" then braced g
    else if t.isWord "..." then do
      let _ ← next
      return .constant (← spanFrom t) .ellipsis
    else fail
  | _ => fail

/-! ## Calls -/

inductive Argument where
  | positional (value : Node)
  | keyword (node : Node)
  | unpacked (node : Node)

def Argument.isPositional : Argument → Bool
  | .positional _ => true
  | _ => false

/-- What may still come in a list of arguments. -/
inductive ArgumentStage where
  | anything
  | keywords
  | unpacking

/-- Reports what looks like a keyword argument and is none. -/
def diagnoseKeyword (g : Grammar) : Parser Unit := do
  let t ← peek
  if t.isWord "True" || t.isWord "False" || t.isWord "None" then
    if ← seesPair (fun _ => true) (·.isWord "=") then raiseAt t.line (.cannotAssign t.text)
  if ← seesPair Token.isName (·.isWord "=") then
    let looped ← lookahead do
      let _ ← next
      let _ ← next
      let _ ← g .expression
      forClauses g
    if looped then raiseAt t.line .equalsInCondition
  else
    match ← ahead (do
      let e ← g .expression
      let _ ← word "="
      return e) with
    | some e => raiseAt e.line .keywordAssignment
    | none => pure ()

/-- One argument that the stage allows, with the stage after it. -/
def argument (g : Grammar) (stage : ArgumentStage) :
    Parser (Argument × ArgumentStage) := do
  let t ← peek
  if t.isWord "**" then
    let _ ← next
    let value ← g .expression
    return (.unpacked (.keyword (← spanFrom t) none value), .unpacking)
  else if t.isWord "*" then
    match stage with
    | .unpacking => fail
    | _ =>
      let _ ← next
      let value ← g .expression
      return (.positional (.starred (← spanFrom t) value .load), stage)
  else if ← seesPair Token.isName (·.isWord "=") then
    whenDiagnosing (diagnoseKeyword g)
    let name ← identifier
    let _ ← word "="
    let value ← g .expression
    let stage := match stage with
      | .anything => .keywords
      | s => s
    return (.keyword (.keyword (← spanFrom t) (some name) value), stage)
  else
    match stage with
    | .anything =>
      let value ←
        if ← seesPair Token.isName (·.isWord ":=") then g .named else g .expression
      if ← seesAny [":=", "="] then fail else return (.positional value, stage)
    | _ => fail

/-- The arguments up to the first one that cannot stand where it stands. -/
def argumentItems (g : Grammar) : Parser (List Argument) := do
  let item (stage : ArgumentStage) : Parser (Argument × ArgumentStage) :=
    orElse (argument g stage) do
      whenDiagnosing (diagnoseKeyword g)
      fail
  let (first, stage) ← item .anything
  let (found, _) ← loop (fun (acc, stage) => do
    let _ ← word ","
    let (a, stage) ← item stage
    return (a :: acc, stage)) ([first], stage)
  return found.reverse

/-- Reports why the arguments that were read are not followed by the closing parenthesis. -/
def diagnoseArguments (g : Grammar) (start : Token)
    (items : List Argument) : Parser Unit := do
  let comma ← ahead do
    let _ ← word ","
    peek
  match comma with
  | some t => if t.isWord "*" then raiseAt start.line .starredAfterUnpacking
  | none => pure ()
  let positional := items.filterMap fun
    | .positional n => some n
    | _ => none
  match items with
  | [.positional e] =>
    let looped ← lookahead do
      let _ ← forClauses g
      word ","
    if looped then raiseAt e.line .bareGenerator
  | _ => pure ()
  if 1 < positional.length then
    if ← lookahead (forClauses g) then
      raiseAt ((positional.getLast?.map Node.line).getD 0) .bareGenerator
  match ← ahead (do
    let _ ← word ","
    let e ← g .expression
    let _ ← forClauses g
    return e) with
  | some e => raiseAt e.line .bareGenerator
  | none => pure ()
  let further ← lookahead do
    let _ ← word ","
    argumentItems g
  if further then
    let unpacks := items.any fun
      | .unpacked _ => true
      | _ => false
    raise (if unpacks then .positionalAfterUnpacking else .positionalAfterKeyword)

/-- The arguments of a call in their parentheses: the positional ones and the keywords. One
generator may stand alone without parentheses of its own where `generator` says so. -/
def arguments (g : Grammar) (generator : Bool) :
    Parser (List Node × List Node) := do
  let opening ← word "("
  if ← accept ")" then return ([], [])
  else
    let start ← peek
    whenDiagnosing do
      if generator && start.isWord "*" then
        let looped ← lookahead do
          let _ ← word "*"
          let _ ← g .expression
          forClauses g
        if looped then raiseAt start.line (.unpackedComprehension false)
    let items ← argumentItems g
    let alone := match items with
      | [.positional (.starred ..)] => none
      | [.positional e] => some e
      | _ => none
    let looped ← match alone with
      | some e =>
        if generator && (← seesFor) then
          optional do
            let clauses ← forClauses g
            let _ ← word ")"
            return Node.comprehension (← spanFrom opening) .generator e clauses
        else pure none
      | none => pure none
    match looped with
    | some n => return ([n], [])
    | none =>
      let closed ← optional do
        let _ ← accept ","
        word ")"
      match closed with
      | some _ =>
        let positional := items.filterMap fun
          | .positional n => some n
          | _ => none
        let keywords := items.filterMap fun
          | .keyword n => some n
          | .unpacked n => some n
          | _ => none
        return (positional, keywords)
      | none =>
        whenDiagnosing (diagnoseArguments g start items)
        fail

/-! ## Items -/

/-- One index: an expression, or a slice. -/
def slice (g : Grammar) : Parser Node := do
  let start ← peek
  let lower ← if start.isWord ":" then pure none else some <$> g .named
  let bound : Parser (Option Node) := do
    if ← seesAny [":", ",", "]"] then pure none else some <$> g .expression
  match lower with
  | some e =>
    if ← sees ":" then
      match e with
      | .named .. => fail
      | _ => pure ()
  | none => pure ()
  if ← accept ":" then
    let upper ← bound
    let step ← if ← accept ":" then bound else pure none
    return .slice (← spanFrom start) lower upper step
  else
    match lower with
    | some e => return e
    | none => fail

def indexItem (g : Grammar) : Parser Node := do
  let t ← peek
  if t.isWord "*" then
    let _ ← next
    let value ← g .expression
    return .starred (← spanFrom t) value .load
  else slice g

/-- The indices between square brackets; several of them, or a starred one, are a tuple. -/
def indices (g : Grammar) : Parser Node := do
  let start ← peek
  let first ← indexItem g
  let (items, several) ← moreItems (indexItem g) first
  if several then return .tuple (← spanFrom start) items .load
  else match first with
    | .starred .. => return .tuple (← spanFrom start) items .load
    | _ => return first

/-! ## Attributes, calls and items -/

/-- An atom with what is applied to it. -/
def primary (g : Grammar) : Parser Node := do
  let start ← peek
  let first ← atom g
  loop (fun acc => do
    let t ← peek
    if t.isWord "." then
      let _ ← next
      let name ← identifier
      return .attr (← spanFrom start) acc name .load
    else if t.isWord "(" then
      let (args, keywords) ← arguments g true
      return .call (← spanFrom start) acc args keywords
    else if t.isWord "[" then
      let _ ← next
      let index ← indices g
      let _ ← word "]"
      return .subscript (← spanFrom start) acc index .load
    else fail) first

/-! ## Operators -/

def awaited (g : Grammar) : Parser Node := do
  let t ← peek
  if t.isWord "await" then
    let _ ← next
    let value ← primary g
    return .await (← spanFrom t) value
  else primary g

def power (g : Grammar) : Parser Node := do
  let start ← peek
  let base ← awaited g
  let exponent ← optional do
    let _ ← word "**"
    g .factor
  match exponent with
  | some e => return .binary (← spanFrom start) base .pow e
  | none => return base

def factor (g : Grammar) : Parser Node := do
  let t ← peek
  let unary (op : UnaryOp) : Parser Node := do
    let _ ← next
    let operand ← g .factor
    return .unary (← spanFrom t) op operand
  if t.isWord "+" then unary .plus
  else if t.isWord "-" then unary .minus
  else if t.isWord "~" then unary .invert
  else power g

/-- Operators of one strength, from left to right. -/
def leftToRight (ops : List (Text × BinaryOp)) (operand : Parser Node) : Parser Node := do
  let start ← peek
  let first ← operand
  loop (fun acc => do
    let t ← peek
    match ops.find? fun o => t.isWord o.1 with
    | some (_, op) =>
      let _ ← next
      let right ← operand
      return .binary (← spanFrom start) acc op right
    | none => fail) first

def term (g : Grammar) : Parser Node :=
  leftToRight [("*", .mult), ("/", .div), ("//", .floorDiv), ("%", .mod), ("@", .matMult)]
    (factor g)

def sum (g : Grammar) : Parser Node :=
  leftToRight [("+", .add), ("-", .sub)] (term g)

def shift (g : Grammar) : Parser Node :=
  leftToRight [("<<", .leftShift), (">>", .rightShift)] (sum g)

def bitwiseOr (g : Grammar) : Parser Node :=
  leftToRight [("|", .bitOr)]
    (leftToRight [("^", .bitXor)] (leftToRight [("&", .bitAnd)] (shift g)))

/-- A comparison operator, which may be two words. -/
def compareOp : Parser CompareOp := do
  let t ← next
  let table : List (Text × CompareOp) :=
    [("==", .eq), ("!=", .notEq), ("<=", .ltE), ("<", .lt), (">=", .gtE), (">", .gt), ("in", .in)]
  match table.find? fun o => t.isWord o.1 with
  | some (_, op) => return op
  | none =>
    if t.isWord "not" then
      let _ ← word "in"
      return .notIn
    else if t.isWord "is" then
      if ← accept "not" then return .isNot else return .is
    else fail

def comparison (g : Grammar) : Parser Node := do
  let start ← peek
  let left ← bitwiseOr g
  let found ← many do
    let op ← compareOp
    return (op, ← bitwiseOr g)
  if found.isEmpty then return left
  else return .compare (← spanFrom start) left (found.map (·.1)) (found.map (·.2))

def inversion (g : Grammar) : Parser Node := do
  let t ← peek
  if t.isWord "not" then
    let _ ← next
    let operand ← g .inversion
    return .unary (← spanFrom t) .not operand
  else comparison g

/-- Operands joined by `and` or by `or`. -/
def joinedBy (w : Text) (op : BoolOp) (operand : Parser Node) : Parser Node := do
  let start ← peek
  let first ← operand
  let others ← many do
    let _ ← word w
    operand
  if others.isEmpty then return first
  else return .boolOp (← spanFrom start) op (first :: others)

def conjunction (g : Grammar) : Parser Node :=
  joinedBy "and" .and (inversion g)

def disjunction (g : Grammar) : Parser Node :=
  joinedBy "or" .or (conjunction g)

/-! ## Whole expressions -/

def lambda (g : Grammar) : Parser Node := do
  let start ← word "lambda"
  let params ← parameters g false
  let _ ← word ":"
  let body ← g .expression
  return .lambda (← spanFrom start) params body

def isPrintLike (n : Node) : Bool :=
  match n with
  | .name _ id _ => id = "print" || id = "exec"
  | _ => false

/-- Reports a forgotten comma, a condition without an alternative, and `print` used as a
statement, for an expression whose first part has been read. -/
def diagnoseExpression (g : Grammar) (before : State) (start : Token) (wordLike : Bool)
    (first : Node) : Parser Unit := do
  if !wordLike then
    match ← ahead (plainly (do
      let _ ← g .expression
      depth)) with
    | some d => if !isPrintLike first && d ≠ 0 then raiseAt first.line .forgottenComma
    | none => pure ()
  if ← sees "if" then
    let half ← lookahead do
      let _ ← word "if"
      let _ ← g .disjunction
      if ← seesAny ["else", ":"] then fail
    if half then raiseAt first.line .missingElse
  if start.isNamed "print" || start.isNamed "exec" then
    let statement ← lookahead (restart before do
      let _ ← next
      if ← sees "(" then fail else g .starExpressions)
    if statement then raiseAt start.line (.missingParentheses start.text)

def expression (g : Grammar) : Parser Node := do
  let start ← peek
  let before ← here
  if start.isWord "lambda" then lambda g
  else
    let wordLike ← do
      if start.isNamed "match" || start.isNamed "case" || start.isNamed "_" then pure true
      else seesPair Token.isName Token.isString
    let first ← disjunction g
    whenDiagnosing (diagnoseExpression g before start wordLike first)
    let conditional ← optional do
      let _ ← word "if"
      let test ← g .disjunction
      let _ ← word "else"
      return (test, ← g .expression)
    match conditional with
    | some (test, other) => return .ifExp (← spanFrom start) test first other
    | none => return first

/-- What an expression of operators, calls and attributes starts with. -/
def leftmost : Node → Node
  | .binary _ left _ _ => leftmost left
  | .attr _ value _ _ => leftmost value
  | .subscript _ value _ _ => leftmost value
  | .call _ function _ _ => leftmost function
  | n => n

/-- Whether an expression starts with a list, a tuple, a generator or a constant that has a
keyword of its own. -/
def startsFixed (n : Node) : Bool :=
  match leftmost n with
  | .list .. => true
  | .tuple .. => true
  | .comprehension _ .generator _ _ => true
  | .constant _ .none => true
  | .constant _ (.bool _) => true
  | _ => false

/-- Reports an assignment where a condition or an element is expected. -/
def diagnoseNamed (g : Grammar) (start : Token) (first : Node) : Parser Unit := do
  if ← sees ":=" then
    let assigned ← lookahead do
      let _ ← word ":="
      g .expression
    if assigned then raiseAt first.line (.cannotName (describe first))
  if ← sees "=" then
    let once ← lookahead do
      let _ ← word "="
      let _ ← g .bitwiseOr
      if ← seesAny ["=", ":="] then fail
    if once then
      match first, start.isName with
      | .name .., true => raiseAt start.line .equalsInCondition
      | _, _ =>
        if !startsFixed first then raiseAt first.line (.cannotAssignHere (describe first))

/-- An expression that may be given a name. -/
def named (g : Grammar) : Parser Node := do
  let start ← peek
  if ← seesPair Token.isName (·.isWord ":=") then
    let id ← identifier
    let target := Node.name (← spanFrom start) id .store
    let _ ← word ":="
    let value ← g .expression
    return .named (← spanFrom start) target value
  else
    let e ← expression g
    whenDiagnosing (diagnoseNamed g start e)
    if ← sees ":=" then fail else return e

/-- `item`, or a starred expression. -/
def starOr (g : Grammar) (item : Parser Node) : Parser Node := do
  let t ← peek
  if t.isWord "*" then
    let _ ← next
    let value ← bitwiseOr g
    return .starred (← spanFrom t) value .load
  else item

def starNamed (g : Grammar) : Parser Node :=
  starOr g (named g)

/-- One expression, or several that make a tuple. -/
def starExpressions (g : Grammar) : Parser Node := do
  let start ← peek
  let item := starOr g (expression g)
  let first ← item
  let (items, several) ← moreItems item first
  if several then return .tuple (← spanFrom start) items .load else return first

end CodeReview.Source.Grammar
