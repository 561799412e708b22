import CodeReview.Source.Grammar.Expression

/-!
Patterns of `match` statements.
-/

namespace CodeReview.Source.Grammar

open CodeReview.Source.Parser

/-- A number with an optional sign. -/
def signedNumber : Parser Node := do
  let start ← peek
  let number : Parser Node := do
    let t ← take fun t => match t.kind with
      | .number => true
      | _ => false
    match Literal.number t.text with
    | .ok c => return .constant (← spanFrom t) c
    | .error f => raiseAt t.line f
  if ← accept "-" then
    let n ← number
    return .unary (← spanFrom start) .minus n
  else number

/-- A number, or a sum of a real and an imaginary number. -/
def complexNumber : Parser Node := do
  let start ← peek
  let left ← signedNumber
  let t ← peek
  let op := if t.isWord "+" then some BinaryOp.add else if t.isWord "-" then some .sub else none
  match op with
  | none => return left
  | some op =>
    let _ ← next
    let r ← peek
    let right ← signedNumber
    if r.isWord "-" then fail
    else match right with
      | .constant _ (.imaginary _) => return .binary (← spanFrom start) left op right
      | _ => fail

/-- A name, or names joined by dots. -/
def dotted : Parser Node := do
  let start ← peek
  let id ← identifier
  let first := Node.name (← spanFrom start) id .load
  loop (fun acc => do
    let _ ← word "."
    let name ← identifier
    return .attr (← spanFrom start) acc name .load) first

/-- A constant value inside a mapping pattern or as a pattern of its own. -/
def literalValue (g : Grammar) : Parser Node := do
  let t ← peek
  match t.kind with
  | .string => strings g
  | .keyword => atom g
  | _ => complexNumber

/-- A name that a pattern binds; the underscore binds nothing. -/
def captureName : Parser (Option Text) := do
  let name ← identifier
  return if name = "_" then none else some name

def starPattern : Parser Node := do
  let start ← word "*"
  let name ← captureName
  return .matchStar (← spanFrom start) name

def maybeStar (g : Grammar) : Parser Node := do
  if ← sees "*" then starPattern else g .pattern

/-- Patterns separated by commas up to a closing bracket. The second result says whether there was
a comma. -/
def patternItems (g : Grammar) (close : Text) : Parser (List Node × Bool) := do
  if ← sees close then return ([], false)
  else
    let first ← maybeStar g
    moreItems (maybeStar g) first

/-- An entry of a mapping pattern: a key with its pattern, or the rest. -/
inductive MappingItem where
  | entry (key pattern : Node)
  | rest (name : Text)

def mappingItem (g : Grammar) : Parser MappingItem := do
  if ← accept "**" then
    match ← captureName with
    | some name => return .rest name
    | none => fail
  else
    let key ← do
      if (← peek).isName then dotted else literalValue g
    match key with
    | .name .. => fail
    | _ => pure ()
    let _ ← word ":"
    return .entry key (← g .pattern)

def mappingPattern (g : Grammar) : Parser Node := do
  let start ← word "\x7b"
  let items ← do
    if ← sees "\x7d" then pure []
    else
      let items ← sepBy1 (mappingItem g) ","
      let _ ← accept ","
      pure items
  let _ ← word "\x7d"
  let keys := items.filterMap fun
    | .entry k _ => some k
    | .rest _ => none
  let patterns := items.filterMap fun
    | .entry _ p => some p
    | .rest _ => none
  let rest := items.filterMap fun
    | .entry .. => none
    | .rest n => some n
  let last := match items.getLast? with
    | some (.rest _) => true
    | _ => rest.isEmpty
  if last && rest.length ≤ 1 then
    return .matchMapping (← spanFrom start) keys patterns rest.head?
  else fail

/-- An argument of a class pattern. -/
def classItem (g : Grammar) : Parser (Option Text × Node) := do
  if ← seesPair Token.isName (·.isWord "=") then
    let name ← identifier
    let _ ← word "="
    return (some name, ← g .pattern)
  else return (none, ← g .pattern)

def classPattern (g : Grammar) (start : Token) (type : Node) : Parser Node := do
  let _ ← word "("
  let items ← do
    if ← sees ")" then pure []
    else
      let items ← sepBy1 (classItem g) ","
      let _ ← accept ","
      pure items
  let _ ← word ")"
  let positional := items.takeWhile fun i => i.1.isNone
  let keyed := items.drop positional.length
  if keyed.all fun i => i.1.isSome then
    return .matchClass (← spanFrom start) type (positional.map (·.2)) (keyed.filterMap (·.1))
      (keyed.map (·.2))
  else if ← diagnosing then
    let bad := (keyed.find? fun i => i.1.isNone).map fun i => i.2.line
    raiseAt (bad.getD start.line) .keywordPatternOrder
  else fail

def closedPattern (g : Grammar) : Parser Node := do
  let t ← peek
  match t.kind with
  | .name =>
    if t.text = "_".toList then
      let _ ← next
      return .matchAs (← spanFrom t) none none
    else
      let value ← dotted
      if ← sees "(" then classPattern g t value
      else match value with
        | .name _ id _ => return .matchAs (← spanFrom t) none (some id)
        | _ => return .matchValue (← spanFrom t) value
  | .keyword =>
    match ← atom g with
    | .constant s c => return .matchSingleton s c
    | _ => fail
  | .string =>
    let value ← strings g
    return .matchValue (← spanFrom t) value
  | .number =>
    let value ← complexNumber
    return .matchValue (← spanFrom t) value
  | .operator =>
    if t.isWord "-" then
      let value ← complexNumber
      return .matchValue (← spanFrom t) value
    else if t.isWord "(" then
      let _ ← next
      let (items, several) ← patternItems g ")"
      let _ ← word ")"
      match items, several with
      | [.matchStar ..], false => fail
      | [p], false => return p
      | _, _ => return .matchSequence (← spanFrom t) items
    else if t.isWord "[" then
      let _ ← next
      let (items, _) ← patternItems g "]"
      let _ ← word "]"
      return .matchSequence (← spanFrom t) items
    else if t.isWord "\x7b" then mappingPattern g
    else fail
  | _ => fail

/-- One pattern, or alternatives separated by bars. -/
def alternatives (g : Grammar) : Parser Node := do
  let start ← peek
  match ← sepBy1 (closedPattern g) "|" with
  | [p] => return p
  | ps => return .matchOr (← spanFrom start) ps

/-- A pattern: alternatives, with an optional name for the whole. -/
def pattern (g : Grammar) : Parser Node := do
  let start ← peek
  let whole ← alternatives g
  if ← accept "as" then
    let name ← identifier
    if name = "_" then fail
    else return .matchAs (← spanFrom start) (some whole) (some name)
  else return whole

/-- What stands after `case`: a pattern, or several that make a sequence. -/
def patterns (g : Grammar) : Parser Node := do
  let start ← peek
  let first ← maybeStar g
  let (items, several) ← moreItems (maybeStar g) first
  match several, first with
  | false, .matchStar .. => fail
  | false, _ => return first
  | true, _ => return .matchSequence (← spanFrom start) items

end CodeReview.Source.Grammar
