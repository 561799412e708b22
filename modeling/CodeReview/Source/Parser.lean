import CodeReview.Source.Token

/-!
Reading tokens with backtracking.

A parser succeeds, fails, or reports a fault. A failure lets another way be tried from the same
token; a reported fault ends everything. Along the way it is kept how far the tokens have been
looked at, since that is where a text that no way fits is said to be wrong.

A text is parsed first without and, if that fails, a second time with `diagnose`: then the rules
also look for known mistakes and report them.
-/

namespace CodeReview.Source

/-- What a parser reads from. -/
structure Reading where
  tokens : List Token
  diagnose : Bool

structure Parser.State where
  rest : List Token
  /-- The number of tokens taken. -/
  pos : Nat
  /-- The number of tokens looked at. -/
  reach : Nat
  /-- The last line of the last token taken that is not layout. -/
  endLine : Nat
  /-- The number of brackets open after the last token taken. -/
  depth : Nat

inductive Parser.Outcome (α : Type) where
  | ok (a : α) (s : Parser.State)
  | fail (reach : Nat)
  /-- A reported fault, and how far the tokens have been looked at. -/
  | raise (d : Diagnostic) (reach : Nat)
  /-- The place was reached where scanning stopped. -/
  | stopped

def Parser (α : Type) := Reading → Parser.State → Parser.Outcome α

namespace Parser

instance : Monad Parser where
  pure a := fun _ s => .ok a s
  bind p f := fun r s =>
    match p r s with
    | .ok a s => f a r s
    | .fail n => .fail n
    | .raise d n => .raise d n
    | .stopped => .stopped

def fail {α : Type} : Parser α :=
  fun _ s => .fail s.reach

/-- Tries a second parser from the same place where the first one fails. -/
def orElse {α : Type} (p q : Parser α) : Parser α :=
  fun r s =>
    match p r s with
    | .fail n => q r { s with reach := max s.reach n }
    | o => o

/-- The result of a parser, or nothing where it fails. -/
def optional {α : Type} (p : Parser α) : Parser (Option α) :=
  orElse (some <$> p) (pure none)

/-- Whether a parser succeeds here; takes no token. -/
def lookahead {α : Type} (p : Parser α) : Parser Bool :=
  fun r s =>
    match p r s with
    | .ok _ t => .ok true { s with reach := max s.reach t.reach }
    | .fail n => .ok false { s with reach := max s.reach n }
    | .raise d n => .raise d n
    | .stopped => .stopped

/-- What a parser would read here; takes no token. -/
def ahead {α : Type} (p : Parser α) : Parser (Option α) :=
  fun r s =>
    match p r s with
    | .ok a t => .ok (some a) { s with reach := max s.reach t.reach }
    | .fail n => .ok none { s with reach := max s.reach n }
    | .raise d n => .raise d n
    | .stopped => .stopped

/-- Whether known mistakes are looked for. -/
def diagnosing : Parser Bool :=
  fun r s => .ok r.diagnose s

/-- Parses without looking for known mistakes. -/
def plainly {α : Type} (p : Parser α) : Parser α :=
  fun r s => p { r with diagnose := false } s

/-- Runs only when known mistakes are looked for. -/
def whenDiagnosing (p : Parser Unit) : Parser Unit :=
  fun r s => if r.diagnose then p r s else .ok () s

/-- Where the parser stands. -/
def here : Parser State :=
  fun _ s => .ok s s

/-- Runs a parser from a place passed before. -/
def restart {α : Type} (before : State) (p : Parser α) : Parser α :=
  fun r s => p r { before with reach := s.reach }

/-! ## Faults -/

def raiseAt {α : Type} (line : Nat) (fault : Fault) : Parser α :=
  fun _ s => .raise { line := line, fault := fault } s.reach

/-- Reports a fault for the line of the last token looked at. -/
def raise {α : Type} (fault : Fault) : Parser α :=
  fun r s =>
    let line := (r.tokens[s.reach - 1]?.map Token.line).getD 1
    .raise { line := line, fault := fault } s.reach

/-! ## Tokens -/

/-- The next token. To look at the place where scanning stopped reports why. -/
def peek : Parser Token :=
  fun _ s =>
    let s := { s with reach := max s.reach (s.pos + 1) }
    match s.rest with
    | [] => .fail s.reach
    | t :: _ =>
      match t.kind with
      | .stop _ => .stopped
      | _ => .ok t s

/-- Takes the next token. -/
def next : Parser Token := do
  let t ← peek
  fun _ s =>
    .ok t { s with
      rest := s.rest.drop 1
      pos := s.pos + 1
      endLine := if t.isLayout then s.endLine else t.endLine
      depth := t.depth }

/-- Takes the next token if it satisfies a test. -/
def take (test : Token → Bool) : Parser Token := do
  let t ← peek
  if test t then next else fail

/-- Whether the next token is this keyword or operator. -/
def sees (word : Text) : Parser Bool :=
  return (← peek).isWord word

def seesAny (words : List Text) : Parser Bool := do
  let t ← peek
  return words.any fun w => t.isWord w

/-- Takes this keyword or operator. -/
def word (w : Text) : Parser Token :=
  take (·.isWord w)

/-- Takes this keyword or operator if it comes next. -/
def accept (w : Text) : Parser Bool := do
  if ← sees w then
    let _ ← next
    return true
  else return false

def newline : Parser Unit := do
  let _ ← take Token.isNewline

/-- Takes this keyword or operator, and reports a fault if something else comes. -/
def demand (w : Text) : Parser Token := do
  let t ← peek
  if t.isWord w then next
  else raiseAt t.line (.expected ('\'' :: w ++ ['\'']))

/-! ## Repetition -/

def iterate {α : Type} (step : α → Parser α) : Nat → α → Parser α
  | 0, a => pure a
  | n + 1, a => do
    match ← optional (step a) with
    | none => pure a
    | some b => iterate step n b

/-- Repeats a step that takes at least one token until it fails. -/
def loop {α : Type} (step : α → Parser α) (a : α) : Parser α :=
  fun r s => iterate step (s.rest.length + 1) a r s

/-- One or more items, with a separator before each further one. -/
def sepBy1 {α : Type} (item : Parser α) (sep : Text) : Parser (List α) := do
  let first ← item
  let found ← loop (fun acc => do
    let _ ← word sep
    return (← item) :: acc) [first]
  return found.reverse

def many {α : Type} (item : Parser α) : Parser (List α) :=
  return (← loop (fun acc => return (← item) :: acc) []).reverse

def many1 {α : Type} (item : Parser α) : Parser (List α) := do
  let first ← item
  return first :: (← many item)

/-! ## Running -/

/-- Why scanning stopped. -/
def stop? (tokens : List Token) : Option Stop :=
  match tokens.getLast? with
  | some t =>
    match t.kind with
    | .stop why => some why
    | _ => none
  | none => none

/-- The fault to report when scanning stopped at a token that was needed. -/
def stopFault (wrap : Fault → Fault) (tokens : List Token) : Diagnostic :=
  match stop? tokens with
  | some why =>
    { line := why.line, fault := if why.eager then why.fault else wrap why.fault }
  | none => { line := 1, fault := wrap .invalidSyntax }

/-- The line of the last token looked at. -/
def lineOf (tokens : List Token) (reach : Nat) : Nat :=
  (tokens[reach - 1]?.map Token.line).getD 1

/-- The fault to report for a fault found while parsing. A faulty token takes its place, and so
does a bracket that was opened on an earlier line and never closed. -/
def settle (wrap : Fault → Fault) (tokens : List Token) (d : Diagnostic) (reach : Nat) :
    Diagnostic :=
  let own : Diagnostic := { line := d.line, fault := wrap d.fault }
  match stop? tokens with
  | none => own
  | some why =>
    if why.eager then { line := why.line, fault := why.fault }
    else match why.inside with
      | some b =>
        if b.line < lineOf tokens reach then { line := b.line, fault := wrap (.neverClosed b.char) }
        else own
      | none => own

/-- Parses all tokens: first plainly, and where that fails once more to find out why. -/
def run {α : Type} (p : Parser α) (wrap : Fault → Fault) (tokens : List Token) :
    Except Diagnostic α :=
  let start : State := { rest := tokens, pos := 0, reach := 0, endLine := 1, depth := 0 }
  match p { tokens := tokens, diagnose := false } start with
  | .ok a _ => .ok a
  | .raise d n => .error (settle wrap tokens d n)
  | .stopped => .error (stopFault wrap tokens)
  | .fail reach =>
    let generic (last : Nat) : Diagnostic :=
      match tokens[reach - 1]? with
      | none => { line := 1, fault := wrap .invalidSyntax }
      | some t =>
        if t.isIndent then { line := lineOf tokens last, fault := wrap .unexpectedIndent }
        else if t.isDedent then { line := lineOf tokens last, fault := wrap .unexpectedUnindent }
        else settle wrap tokens { line := t.line, fault := .invalidSyntax } last
    match p { tokens := tokens, diagnose := true } { start with reach := reach } with
    | .raise d n => .error (settle wrap tokens d n)
    | .stopped => .error (stopFault wrap tokens)
    | .fail last => .error (generic last)
    | .ok _ s => .error (generic s.reach)

end Parser

end CodeReview.Source
