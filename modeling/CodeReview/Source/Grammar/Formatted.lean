import CodeReview.Source.Grammar.Goal

/-!
String literals, and the expressions inside formatted ones.

Neighbouring literals are one string. If one of them is formatted, the whole is a list of pieces:
literal text, and expressions with a conversion and a format, which may hold expressions again.
-/

namespace CodeReview.Source.Grammar

open CodeReview.Source.Parser

/-- What has been seen inside the expression of a replacement field. -/
structure FieldState where
  /-- The quote of the string that is being read, and whether it is tripled. -/
  quote : Option (Char × Bool)
  /-- The brackets that are open. -/
  opened : List Char
  /-- How many of the next characters belong to what was just read. -/
  skip : Nat

/-- Reads the expression of a replacement field up to what ends it. -/
def fieldExpression (s : FieldState) (acc : Text) : Text → Except Fault (Text × Text)
  | [] =>
    match s.quote, s.opened with
    | some _, _ => .error (.formatted ": unterminated string")
    | none, b :: _ => .error (.formatted (": unmatched " ++ Fault.quoted b))
    | none, [] => .ok (acc.reverse, [])
  | c :: rest =>
    let go (s : FieldState) : Except Fault (Text × Text) := fieldExpression s (c :: acc) rest
    if 0 < s.skip then go { s with skip := s.skip - 1 }
    else if c = '\\' then .error (.formatted " expression part cannot include a backslash")
    else match s.quote with
      | some (q, false) => go (if c = q then { s with quote := none } else s)
      | some (q, true) =>
        if c = q && [q, q].isPrefixOf rest then go { s with quote := none, skip := 2 } else go s
      | none =>
        if c = '\'' || c = '"' then
          if [c, c].isPrefixOf rest then go { s with quote := some (c, true), skip := 2 }
          else go { s with quote := some (c, false) }
        else if c = '(' || c = '[' || c = '\x7b' then
          if 200 ≤ s.opened.length then .error (.formatted ": too many nested parenthesis")
          else go { s with opened := c :: s.opened }
        else if c = '#' then .error (.formatted " expression part cannot include '#'")
        else if s.opened.isEmpty && ['!', ':', '\x7d', '=', '>', '<'].contains c then
          if ['!', '=', '<', '>'].contains c && rest.head? = some '=' then go { s with skip := 1 }
          else if c = '>' || c = '<' then go s
          else .ok (acc.reverse, c :: rest)
        else if c = ')' || c = ']' || c = '\x7d' then
          match s.opened with
          | [] => .error (.formatted (": unmatched " ++ Fault.quoted c))
          | b :: outer =>
            if Token.closes b c then go { s with opened := outer }
            else .error (.formatted (": " ++ (Fault.mismatched c b none).message))
        else go s

/-- What a brace in literal text does: it ends the text, or stands for one brace where it is
doubled; the second result says which of these it was. In a format, every brace ends the text. -/
def fieldBrace (inFormat : Bool) (acc : Text) (c : Char) (rest : Text) :
    Except Fault (Text × Bool × Text) :=
  if inFormat then .ok (acc.reverse, false, c :: rest)
  else if rest.head? = some c then .ok ((c :: acc).reverse, true, rest.drop 1)
  else if c = '\x7d' then .error (.formatted ": single '\x7d' is not allowed")
  else .ok (acc.reverse, false, c :: rest)

/-- Reads literal text up to a brace or to the end. The count bounds the characters left. -/
def fieldText (raw inFormat : Bool) : Nat → Text → Text → Except Fault (Text × Bool × Text)
  | 0, acc, rest => .ok (acc.reverse, false, rest)
  | _, acc, [] => .ok (acc.reverse, false, [])
  | n + 1, acc, c :: rest =>
    if c = '\\' && !raw then
      match rest with
      | [] => fieldText raw inFormat n (c :: acc) rest
      | 'N' :: '\x7b' :: more =>
        let name := more.takeWhile (· ≠ '\x7d')
        let used := ['\\', 'N', '\x7b'] ++ name ++ (more.drop name.length).take 1
        fieldText raw inFormat n (used.reverse ++ acc) (more.drop (name.length + 1))
      | 'N' :: d :: more => fieldText raw inFormat n (d :: 'N' :: c :: acc) more
      | d :: more =>
        if d = '\x7b' || d = '\x7d' then fieldBrace inFormat (c :: acc) d more
        else fieldText raw inFormat n (d :: c :: acc) more
    else if c = '\x7b' || c = '\x7d' then fieldBrace inFormat acc c rest
    else fieldText raw inFormat n (c :: acc) rest

/-- What has been read of a string: the pieces, backwards, and the literal text after them. -/
structure Pieces where
  values : List Node
  pending : Text

/-- The pending text becomes a piece. -/
def Pieces.flush (p : Pieces) (span : Span) (marked : Bool) : Pieces :=
  if p.pending.isEmpty then p
  else { values := .constant span (.text p.pending marked) :: p.values, pending := [] }

/-- The literal in which replacement fields are read. -/
structure Template where
  token : Token
  raw : Bool
  marked : Bool
  /-- The place of the whole string. -/
  span : Span
  /-- The number of characters after the body: the closing quotes. -/
  closing : Nat

def liftFault {α : Type} (r : Except Fault α) : Parser α :=
  match r with
  | .ok a => pure a
  | .error f => raise f

/-- Parses the expression of a field. It is read as if it stood in parentheses where its opening
brace is. -/
def parseField (g : Grammar) (t : Template) (expression after : Text) : Parser Node := do
  if expression.all (fun c => c = ' ' || c = '\t' || c = '\n' || c = '\x0c') then
    raise (.formatted ": empty expression not allowed")
  else
    let left := after.length + expression.length + t.closing + 1
    let before := t.token.text.take (t.token.text.length - left)
    let lines := before.countP (· = '\n')
    let lastLine := before.reverse.takeWhile (· ≠ '\n')
    let blank := expression.takeWhile fun c => c = ' ' || c = '\t' || c = '\x0c'
    let broken := (expression.drop blank.length).head? = some '\n'
    let indent := if broken then 0 else Token.byteLength lastLine
    let col := if lines = 0 then t.token.col + indent else indent
    let tokens := Token.scanAt (t.token.line + lines) col ('(' :: expression ++ [')'])
    match Parser.run (g .starExpressions) Fault.nested tokens with
    | .ok n => return n
    | .error d => raiseAt d.line d.fault

/-- The text that `=` after an expression asks to be shown. -/
def readShown (expression after : Text) : Parser (Text × Text) :=
  match after with
  | '=' :: more =>
    let blanks := more.takeWhile fun c => c = ' ' || ('\t' ≤ c && c ≤ '\x0d')
    let after := more.drop blanks.length
    if after.isEmpty then raise (.formatted ": expecting '\x7d'")
    else return (expression ++ '=' :: blanks, after)
  | _ => return ([], after)

def readConversion (after : Text) : Parser (Option Char × Text) :=
  match after with
  | '!' :: [] => raise (.formatted ": expecting '\x7d'")
  | '!' :: c :: after =>
    if c = 's' || c = 'r' || c = 'a' then return (some c, after)
    else raise
      (.formatted ": invalid conversion character: expected 's', 'r', or 'a'")
  | _ => return (none, after)

/-- The format of a field, if it has one. `inner` reads the pieces of a format. -/
def readFormat (t : Template) (inner : Text → Parser (Pieces × Text)) (after : Text) :
    Parser (Option Node × Text) :=
  match after with
  | ':' :: more =>
    if more.isEmpty then raise (.formatted ": expecting '\x7d'")
    else do
      let (pieces, after) ← inner more
      return (some (.joined t.span (pieces.flush t.span t.marked).values.reverse), after)
  | _ => return (none, after)

/-- Reads a replacement field after its opening brace: the text that it shows, its node, and what
follows it. An expression that is shown has a conversion of its own if nothing else is said. -/
def readField (g : Grammar) (t : Template) (inner : Text → Parser (Pieces × Text)) (body : Text) :
    Parser (Text × Node × Text) := do
  let (expression, after) ←
    liftFault (fieldExpression { quote := none, opened := [], skip := 0 } [] body)
  if after.isEmpty then raise (.formatted ": expecting '\x7d'")
  else
    let value ← parseField g t expression after
    let (shown, after) ← readShown expression after
    let (conversion, after) ← readConversion after
    let (format, after) ← readFormat t inner after
    match after with
    | '\x7d' :: after =>
      let conversion :=
        if !shown.isEmpty && format.isNone && conversion.isNone then some 'r' else conversion
      return (shown, .formatted t.span value conversion format, after)
    | _ => raise (.formatted ": expecting '\x7d'")

/-- Reads pieces until the string, or the format that is read, ends. `level` counts how deep the
fields are nested, and the first count bounds the steps. -/
def readPieces (g : Grammar) (t : Template) :
    Nat → Nat → Pieces → Text → Parser (Pieces × Text)
  | 0, _, pieces, rest => return (pieces, rest)
  | n + 1, level, pieces, rest => do
    let (literal, doubled, rest) ← liftFault (fieldText t.raw (0 < level) (rest.length + 1) [] rest)
    let literal ← liftFault (Literal.textValue t.raw literal)
    let pieces := { pieces with pending := pieces.pending ++ literal }
    if doubled then readPieces g t n level pieces rest
    else match rest with
      | '\x7b' :: body =>
        if 2 ≤ level then raise (.formatted ": expressions nested too deeply")
        else
          let inner := readPieces g t n (level + 1) { values := [], pending := [] }
          let (shown, field, after) ← readField g t inner body
          let pieces := { pieces with pending := pieces.pending ++ shown }.flush t.span t.marked
          readPieces g t n level { pieces with values := field :: pieces.values } after
      | rest => return (pieces, rest)

/-- Adds the next one of neighbouring literals to what has been read of a string. -/
def addLiteral (g : Grammar) (span : Span) (marked : Bool) (pieces : Pieces)
    (literal : Token × Literal.Quoted) : Parser Pieces := do
  let (t, q) := literal
  if q.formatted then
    let template : Template :=
      { token := t, raw := q.raw, marked := marked, span := span
        closing := t.text.length - q.opening - q.body.length }
    let (pieces, rest) ← readPieces g template (2 * q.body.length + 4) 0 pieces q.body
    if rest.isEmpty then return pieces else raise (.formatted ": unexpected end of string")
  else
    let text ← liftFault (Literal.textValue q.raw q.body)
    return { pieces with pending := pieces.pending ++ text }

/-- Reads neighbouring string literals as one string. -/
def strings (g : Grammar) : Parser Node := do
  let first ← take Token.isString
  let more ← many (take Token.isString)
  let span ← spanFrom first
  let literals := (first :: more).map fun t => (t, Literal.Quoted.of t.text)
  let marked := (Literal.Quoted.of first.text).marked
  if literals.any fun l => l.2.bytes then
    let parts ← literals.mapM fun (t, q) => do
      if !q.bytes then raise .mixedBytes
      else if q.body.any (127 < ·.toNat) then raiseAt t.line .nonAsciiBytes
      else liftFault (Literal.bytesValue q.raw q.body)
    return .constant span (.bytes parts.flatten)
  else
    let pieces ← literals.foldlM (addLiteral g span marked) { values := [], pending := [] }
    if literals.any fun l => l.2.formatted then
      return .joined span (pieces.flush span marked).values.reverse
    else return .constant span (.text pieces.pending marked)

end CodeReview.Source.Grammar
