import CodeReview.Source.Grammar.Pattern

/-!
Statements and blocks of statements.
-/

namespace CodeReview.Source.Grammar

open CodeReview.Source.Parser

/-! ## Assignments -/

def augmentedOps : List (Text × BinaryOp) :=
  [("+=", .add), ("-=", .sub), ("*=", .mult), ("@=", .matMult), ("/=", .div), ("%=", .mod),
    ("&=", .bitAnd), ("|=", .bitOr), ("^=", .bitXor), ("<<=", .leftShift), (">>=", .rightShift),
    ("**=", .pow), ("//=", .floorDiv)]

/-- What can be assigned: a list of expressions, or a `yield`. -/
def assignedValue (g : Grammar) : Parser Node := do
  if ← sees "yield" then yieldExpression g else g .starExpressions

/-- A target that stands alone: a name, an attribute or an item. -/
def singleTarget : Node → Option Node
  | .name s id _ => some (.name s id .store)
  | .attr s value name _ => some (.attr s value name .store)
  | .subscript s value index _ => some (.subscript s value index .store)
  | _ => none

/-- Targets and values of `a = b = …`, after the first expression: each but the last has to be a
target. -/
def assignmentChain (g : Grammar) : Nat → List Node → Node → Parser (List Node × Node)
  | 0, _, _ => fail
  | n + 1, targets, value => do
    if ← sees "=" then
      match asTarget .store value with
      | none => fail
      | some target =>
        let _ ← next
        assignmentChain g n (target :: targets) (← assignedValue g)
    else return (targets.reverse, value)

/-- Whether something in brackets stands right before a type hint. -/
def hintsGroup (g : Grammar) : Parser Bool :=
  lookahead do
    let _ ← word "("
    let _ ← g .starExpressions
    let _ ← word ")"
    word ":"

/-- An assignment of any kind. A target with a type hint that starts with a bracket ends with it. -/
def assignment (g : Grammar) : Parser Node := do
  let start ← peek
  let whole ← hintsGroup g
  let first ← assignedValue g
  let t ← peek
  if t.isWord ":" then
    match if start.isWord "(" && !whole then none else singleTarget first with
    | none => fail
    | some target =>
      let _ ← next
      let hint ← g .expression
      let value ← optional do
        let _ ← word "="
        assignedValue g
      return .annAssign (← spanFrom start) target hint value
  else if t.isWord "=" then
    let (targets, value) ← fun r s => assignmentChain g (s.rest.length + 1) [] first r s
    return .assign (← spanFrom start) targets value
  else match augmentedOps.find? fun o => t.isWord o.1 with
    | some (_, op) =>
      match singleTarget first with
      | none => fail
      | some target =>
        let _ ← next
        let value ← assignedValue g
        return .augAssign (← spanFrom start) target op value
    | none => fail

/-- The targets at the start of an assignment that can be targets. -/
def goodTargets (g : Grammar) : Parser Unit := do
  let _ ← many do
    let e ← g .starExpressions
    let _ ← word "="
    match asTarget .store e with
    | some _ => pure ()
    | none => fail
  pure ()

/-- Reports why what looks like an assignment is none. -/
def diagnoseAssignment (g : Grammar) : Parser Unit := do
  -- type hints
  match ← ahead (do
    let start ← peek
    let a ← g .starNamed
    let (items, several) ← moreItems (g .starNamed) a
    let _ ← word ":"
    let _ ← g .expression
    return (start, a, several, items)) with
  | some (start, a, several, _) =>
    if several then raiseAt a.line .annotatedTuple
    else match a with
      | .tuple .. => raiseAt a.line .annotatedTuple
      | .list .. => raiseAt a.line .annotatedList
      | _ => if start.isWord "(" || (singleTarget a).isNone then raiseAt start.line .unfitForHint
  | none => pure ()
  -- targets
  match ← ahead (do
    goodTargets g
    let e ← g .starExpressions
    let _ ← word "="
    return e) with
  | some e => refuseTarget .assigned e
  | none => pure ()
  match ← ahead (do
    goodTargets g
    let e ← yieldExpression g
    let _ ← word "="
    return e) with
  | some e => raiseAt e.line .yieldTarget
  | none => pure ()
  match ← ahead (do
    let e ← g .starExpressions
    let _ ← take fun t => augmentedOps.any fun o => t.isWord o.1
    let _ ← assignedValue g
    return e) with
  | some e => if (singleTarget e).isNone then raiseAt e.line (.illegalAugmented (describe e))
  | none => pure ()

/-- A statement that starts with an expression. -/
def expressionStatement (g : Grammar) : Parser Node := do
  let start ← peek
  match ← optional (assignment g) with
  | some n => return n
  | none =>
    whenDiagnosing do
      let plain ← lookahead (plainly do
        let _ ← assignedValue g
        take fun t => t.isNewline || t.isWord ";")
      if !plain then diagnoseAssignment g
    let value ← assignedValue g
    return .exprStmt (← spanFrom start) value

/-! ## Simple statements -/

def importAlias (name : Parser Text) : Parser Node := do
  let start ← peek
  let name ← name
  let asName ← if ← accept "as" then some <$> identifier else pure none
  return .importName (← spanFrom start) name asName

def dottedName : Parser Text := do
  let parts ← sepBy1 identifier "."
  return Text.join "." parts

def importStatement : Parser Node := do
  let start ← word "import"
  let names ← sepBy1 (importAlias dottedName) ","
  return .importStmt (← spanFrom start) names

/-- The dots before the module of a relative import, as a number of levels. -/
def importLevel : Parser Nat := do
  let dots ← many do
    if ← accept "." then return 1
    else
      let _ ← word "..."
      return 3
  return dots.foldl (· + ·) 0

def importTargets : Parser (List Node) := do
  let t ← peek
  if t.isWord "*" then
    let _ ← next
    return [.importName (← spanFrom t) "*" none]
  else if t.isWord "(" then
    let _ ← next
    let names ← sepBy1 (importAlias identifier) ","
    let _ ← accept ","
    let _ ← word ")"
    return names
  else
    let names ← sepBy1 (importAlias identifier) ","
    if ← sees "," then
      whenDiagnosing do
        if ← seesPair (·.isWord ",") Token.isNewline then raise .trailingComma
      fail
    else return names

def importFromStatement : Parser Node := do
  let start ← word "from"
  let level ← importLevel
  let source ← if ← sees "import" then pure none else some <$> dottedName
  if level = 0 && source.isNone then fail
  else
    let _ ← word "import"
    let names ← importTargets
    return .importFrom (← spanFrom start) source names level

/-- Targets of `del`. -/
def deleteStatement (g : Grammar) : Parser Node := do
  let start ← word "del"
  let item : Parser Node := do
    match asTarget .delete (← g .primary) with
    | some t => return t
    | none => fail
  let targets ← optional do
    let first ← item
    let (items, _) ← moreItems item first
    let t ← peek
    if t.isNewline || t.isWord ";" then return items else fail
  match targets with
  | some ts => return .deleteStmt (← spanFrom start) ts
  | none =>
    whenDiagnosing do
      match ← ahead (g .starExpressions) with
      | some e => refuseTarget .deleted e
      | none => pure ()
    fail

/-- A statement on one line. -/
def simpleStatement (g : Grammar) : Parser Node := do
  let t ← peek
  let only (make : Span → Node) : Parser Node := do
    let _ ← next
    return make (← spanFrom t)
  if t.isWord "return" then
    let _ ← next
    let value ← optional (g .starExpressions)
    return .returnStmt (← spanFrom t) value
  else if t.isWord "import" then importStatement
  else if t.isWord "from" then importFromStatement
  else if t.isWord "raise" then
    let _ ← next
    match ← optional (g .expression) with
    | none => return .raiseStmt (← spanFrom t) none none
    | some e =>
      let cause ← optional do
        let _ ← word "from"
        g .expression
      return .raiseStmt (← spanFrom t) (some e) cause
  else if t.isWord "pass" then only .passStmt
  else if t.isWord "del" then deleteStatement g
  else if t.isWord "assert" then
    let _ ← next
    let test ← g .expression
    let message ← optional do
      let _ ← word ","
      g .expression
    return .assertStmt (← spanFrom t) test message
  else if t.isWord "break" then only .breakStmt
  else if t.isWord "continue" then only .continueStmt
  else if t.isWord "global" || t.isWord "nonlocal" then
    let _ ← next
    let names ← sepBy1 identifier ","
    return .scopeStmt (← spanFrom t) (t.isWord "nonlocal") names
  else expressionStatement g

/-- Statements separated by semicolons, up to the end of the line. -/
def simpleStatements (g : Grammar) : Parser (List Node) := do
  let found ← sepBy1 (simpleStatement g) ";"
  let _ ← accept ";"
  newline
  return found

/-! ## Blocks -/

/-- The colon after the head of a statement. -/
def headColon : Parser Unit := do
  whenDiagnosing do
    if (← peek).isNewline then raise (.expected "':'")
  let _ ← word ":"

/-- The block after a colon. `what` names the statement that starts at `head` in messages. -/
def blockAfter (g : Grammar) (what : Text) (head : Token) : Parser (List Node) := do
  whenDiagnosing do
    let missing ← lookahead do
      newline
      if (← peek).isIndent then fail
    if missing then raise (.expectedBlock what head.line)
  g .block

/-- A block: the rest of the line, or indented lines. -/
def block (g : Grammar) : Parser (List Node) := do
  if (← peek).isNewline then
    newline
    let _ ← take Token.isIndent
    let body ← many1 (g .statement)
    let _ ← take Token.isDedent
    return body.flatten
  else simpleStatements g

def elseBlock (g : Grammar) : Parser (List Node) := do
  let t ← word "else"
  let _ ← demand ":"
  blockAfter g "'else' statement" t

/-- The `else` of a loop or a `try`, if there is one. -/
def optionalElse (g : Grammar) : Parser (List Node) := do
  if ← sees "else" then elseBlock g else return []

/-! ## Compound statements -/

/-- An `if` or `elif` with all that follows it. -/
def ifFrom (g : Grammar) (w : Text) : Parser Node := do
  let start ← word w
  let test ← g .named
  headColon
  let body ← blockAfter g ("'" ++ w ++ "' statement") start
  let orelse ← do
    if ← sees "elif" then
      let n ← g .elif
      pure [n]
    else optionalElse g
  return .ifStmt (← spanFrom start) test body orelse

def whileStatement (g : Grammar) : Parser Node := do
  let start ← word "while"
  let test ← g .named
  headColon
  let body ← blockAfter g "'while' statement" start
  let orelse ← optionalElse g
  return .whileStmt (← spanFrom start) test body orelse

/-- A `for` loop; `start` is its first token, which may be `async`. -/
def forStatement (g : Grammar) (start : Token) (async : Bool) : Parser Node := do
  let head ← word "for"
  let target ← optional do
    let t ← loopTarget g
    let _ ← word "in"
    return t
  match target with
  | none =>
    whenDiagnosing do
      match ← ahead (g .starExpressions) with
      | some e => refuseTarget .looped e
      | none => pure ()
    fail
  | some target =>
    let iter ← g .starExpressions
    headColon
    let body ← blockAfter g "'for' statement" head
    let orelse ← optionalElse g
    return .forStmt (← spanFrom start) async target iter body orelse

/-- A context manager, with the target that it is bound to. -/
def withItem (g : Grammar) : Parser Node := do
  let context ← g .expression
  let target ← optional do
    let _ ← word "as"
    let t ← peek
    let target ←
      if t.isWord "*" then do
        let _ ← next
        let value ← g .primary
        pure (asTarget .store (.starred (← spanFrom t) value .load))
      else asTarget .store <$> g .primary
    match target with
    | some target => if ← seesAny [",", ")", ":"] then return target else fail
    | none => fail
  whenDiagnosing do
    if target.isNone then
      match ← ahead (do
        let _ ← word "as"
        let e ← g .expression
        if ← seesAny [",", ")", ":"] then return e else fail) with
      | some e => refuseTarget .assigned e
      | none => pure ()
  return .withItem context target

/-- A `with` statement. The parentheses around its items may be its own, or belong to an
expression. -/
def withStatement (g : Grammar) (start : Token) (async : Bool) : Parser Node := do
  let head ← word "with"
  let grouped : Parser (List Node) := do
    let _ ← word "("
    let items ← sepBy1 (withItem g) ","
    let _ ← accept ","
    let _ ← word ")"
    whenDiagnosing do
      if (← peek).isNewline then raise (.expected "':'")
    let _ ← word ":"
    return items
  let plain : Parser (List Node) := do
    let items ← sepBy1 (withItem g) ","
    headColon
    return items
  let items ← orElse (plainly grouped) (orElse plain grouped)
  let body ← blockAfter g "'with' statement" head
  return .withStmt (← spanFrom start) async items body

/-- An `except` clause; `star` says whether it is starred. -/
def exceptClause (g : Grammar) : Parser (Node × Bool) := do
  let start ← word "except"
  let star ← accept "*"
  let t ← peek
  if t.isWord ":" && !star then
    let _ ← next
    let body ← blockAfter g "'except' statement" start
    return (.handler (← spanFrom start) none none body, star)
  else if t.isNewline || t.isWord ":" then
    whenDiagnosing (raise (if star then .missingExceptionTypes else .expected "':'"))
    fail
  else
    let type ← g .expression
    whenDiagnosing do
      let several ← lookahead do
        let _ ← word ","
        let _ ← sepBy1 (g .expression) ","
        let _ ← accept ","
        if ← accept "as" then
          let _ ← identifier
        word ":"
      if several then raiseAt type.line .unparenthesizedExceptions
    let name ← if ← accept "as" then some <$> identifier else pure none
    headColon
    let what : Text := if star then "'except*' statement" else "'except' statement"
    let body ← blockAfter g what start
    return (.handler (← spanFrom start) (some type) name body, star)

def finallyBlock (g : Grammar) : Parser (List Node) := do
  let t ← word "finally"
  let _ ← demand ":"
  blockAfter g "'finally' statement" t

def tryStatement (g : Grammar) : Parser Node := do
  let start ← word "try"
  let _ ← demand ":"
  let body ← blockAfter g "'try' statement" start
  whenDiagnosing do
    if !(← seesAny ["except", "finally"]) then
      raise (.expected "'except' or 'finally' block")
  if ← sees "finally" then
    let final ← finallyBlock g
    return .tryStmt (← spanFrom start) false body [] [] final
  else
    let handlers ← many1 (exceptClause g)
    let star := (handlers.head?.map (·.2)).getD false
    if handlers.any fun h => h.2 ≠ star then
      if ← diagnosing then raise .mixedExcepts else fail
    else
      let orelse ← optionalElse g
      let final ← if ← sees "finally" then finallyBlock g else pure []
      return .tryStmt (← spanFrom start) star body (handlers.map (·.1)) orelse final

/-- A function; `start` is its first token, which may be `async`. -/
def functionDef (g : Grammar) (start : Token) (async : Bool) (decorators : List Node) :
    Parser Node := do
  let head ← word "def"
  let name ← identifier
  let _ ← demand "("
  let params ← parameters g true
  let _ ← word ")"
  let returns ← optional do
    let _ ← word "->"
    g .expression
  let _ ← demand ":"
  let body ← blockAfter g "function definition" head
  return .functionDef (← spanFrom start) async name params body decorators returns

def classDef (g : Grammar) (decorators : List Node) : Parser Node := do
  let start ← word "class"
  let name ← identifier
  let (bases, keywords) ← if ← sees "(" then arguments g false else pure ([], [])
  headColon
  let body ← blockAfter g "class definition" start
  return .classDef (← spanFrom start) name bases keywords body decorators

/-- A definition with the decorators before it. -/
def definition (g : Grammar) : Parser Node := do
  let decorators ← many do
    let _ ← word "@"
    let e ← g .named
    newline
    return e
  let t ← peek
  if t.isWord "class" then classDef g decorators
  else if t.isWord "async" then
    let _ ← next
    functionDef g t true decorators
  else functionDef g t false decorators

/-- A statement that starts with `async`. -/
def asyncStatement (g : Grammar) : Parser Node := do
  let t ← peek
  if ← seesPair (·.isWord "async") (·.isWord "for") then
    let _ ← next
    forStatement g t true
  else if ← seesPair (·.isWord "async") (·.isWord "with") then
    let _ ← next
    withStatement g t true
  else definition g

/-! ## Matching -/

def caseBlock (g : Grammar) : Parser Node := do
  let start ← take (·.isNamed "case")
  let p ← g .patterns
  let guard ← optional do
    let _ ← word "if"
    g .named
  headColon
  let body ← blockAfter g "'case' statement" start
  return .matchCase p guard body

/-- The value that a `match` statement looks at. -/
def matchSubject (g : Grammar) : Parser Node := do
  let start ← peek
  let first ← g .starNamed
  if ← sees "," then
    let (items, _) ← moreItems (g .starNamed) first
    return .tuple (← spanFrom start) items .load
  else match first with
    | .starred .. => fail
    | _ => return first

/-- A `match` statement. The word is no keyword, so this is only tried. -/
def matchStatement (g : Grammar) : Parser Node := do
  let start ← take (·.isNamed "match")
  let subject ← matchSubject g
  headColon
  newline
  whenDiagnosing do
    if !(← peek).isIndent then raise (.expectedBlock "'match' statement" start.line)
  let _ ← take Token.isIndent
  let cases ← many1 (caseBlock g)
  let _ ← take Token.isDedent
  return .matchStmt (← spanFrom start) subject cases

/-! ## Statements -/

def statement (g : Grammar) : Parser (List Node) := do
  let t ← peek
  let one (p : Parser Node) : Parser (List Node) := return [← p]
  if t.isWord "def" || t.isWord "@" || t.isWord "class" then one (definition g)
  else if t.isWord "async" then one (asyncStatement g)
  else if t.isWord "if" then one (ifFrom g "if")
  else if t.isWord "with" then one (withStatement g t false)
  else if t.isWord "for" then one (forStatement g t false)
  else if t.isWord "try" then one (tryStatement g)
  else if t.isWord "while" then one (whileStatement g)
  else if t.isNamed "match" then orElse (one (matchStatement g)) (simpleStatements g)
  else simpleStatements g

/-- The whole text: statements up to its end. -/
def wholeModule (g : Grammar) : Parser Node := do
  let body ← many (statement g)
  let _ ← take Token.isFinish
  return .module body.flatten

/-! ## Closing the circle -/

/-- One rule for each goal. -/
def step (g : Grammar) : Grammar
  | .expression => expression g
  | .starExpressions => starExpressions g
  | .named => named g
  | .starNamed => starNamed g
  | .disjunction => disjunction g
  | .inversion => inversion g
  | .bitwiseOr => bitwiseOr g
  | .factor => factor g
  | .primary => primary g
  | .statement => statement g
  | .block => block g
  | .elif => ifFrom g "elif"
  | .pattern => pattern g
  | .patterns => patterns g

/-- The grammar for texts that are nested at most so deep. -/
def upTo : Nat → Grammar
  | 0 => fun _ => fail
  | n + 1 => fun goal => step (upTo n) goal

end CodeReview.Source.Grammar
