import CodeReview.Source.Fault
import CodeReview.Text.Identifier

/-!
Tokens of a source text.

`scan` cuts a whole text into tokens. Indentation is turned into `indent` and `dedent` tokens, line
ends inside brackets are dropped, and comments leave no token. The last token is `finish`, or
`stop` with the fault at which no further token can be read.

Lines count from one. Columns count the bytes of the UTF-8 form from zero.
-/

namespace CodeReview.Source

/-- An opening bracket and its line. -/
structure Bracket where
  char : Char
  line : Nat
  deriving Repr, Inhabited

/-- Why scanning stopped. -/
structure Stop where
  fault : Fault
  line : Nat
  /-- The fault is reported whatever else is wrong before it. -/
  eager : Bool
  /-- The innermost bracket that is open. -/
  inside : Option Bracket
  deriving Repr, Inhabited

inductive Token.Kind where
  | name
  | keyword
  | number
  | string
  | operator
  | newline
  | indent
  | dedent
  | finish
  | stop (why : Stop)
  deriving Repr, Inhabited

structure Token where
  kind : Token.Kind
  text : Text
  line : Nat
  col : Nat
  endLine : Nat
  /-- The number of brackets that are open after the token. -/
  depth : Nat
  deriving Repr, Inhabited

namespace Token

def keywords : List Text :=
  List.map String.toList
    ["False", "None", "True", "and", "as", "assert", "async", "await", "break", "class", "continue",
      "def", "del", "elif", "else", "except", "finally", "for", "from", "global", "if", "import",
      "in", "is", "lambda", "nonlocal", "not", "or", "pass", "raise", "return", "try", "while",
      "with", "yield"]

/-! ## Kinds of tokens -/

/-- The token is this keyword or operator. -/
def isWord (t : Token) (word : Text) : Bool :=
  match t.kind with
  | .keyword => t.text = word
  | .operator => t.text = word
  | _ => false

def isName (t : Token) : Bool :=
  match t.kind with
  | .name => true
  | _ => false

/-- The token is a name with this spelling. -/
def isNamed (t : Token) (word : Text) : Bool :=
  t.isName && t.text = word

def isNewline (t : Token) : Bool :=
  match t.kind with
  | .newline => true
  | _ => false

def isIndent (t : Token) : Bool :=
  match t.kind with
  | .indent => true
  | _ => false

def isDedent (t : Token) : Bool :=
  match t.kind with
  | .dedent => true
  | _ => false

def isFinish (t : Token) : Bool :=
  match t.kind with
  | .finish => true
  | _ => false

def isString (t : Token) : Bool :=
  match t.kind with
  | .string => true
  | _ => false

/-- Line ends and indentation. -/
def isLayout (t : Token) : Bool :=
  t.isNewline || t.isIndent || t.isDedent || t.isFinish

/-! ## Positions -/

/-- A place in the text: what follows, and where that is. -/
structure Cursor where
  rest : Text
  line : Nat
  col : Nat
  deriving Inhabited

/-- The number of bytes in the UTF-8 form. -/
def byteLength (t : Text) : Nat :=
  t.foldl (fun n c => n + c.utf8Size) 0

/-- The place after `taken`. The end of the text stays on the last line. -/
def Cursor.past (c : Cursor) (taken rest : Text) : Cursor :=
  let after := taken.foldl
    (fun (p : Nat × Nat) ch => if ch = '\n' then (p.1 + 1, 0) else (p.1, p.2 + ch.utf8Size))
    (c.line, c.col)
  if rest.isEmpty && taken.getLast? = some '\n' then
    { rest := rest, line := after.1 - 1, col := c.col + byteLength taken }
  else { rest := rest, line := after.1, col := after.2 }

/-! ## Numbers -/

/-- Whether a character can be part of an identifier, before its class is looked up. -/
def mayContinue (c : Char) : Bool :=
  c.isAlphanum || c = '_' || 127 < c.toNat

/-- A number may not run into a name, unless the name starts like a keyword that can follow a
number. -/
def numberEnd (kind : Text) (rest : Text) : Except Fault Text :=
  let follows := ["and", "else", "for", "if", "in", "is", "or", "not"].any fun k =>
    k.toList.isPrefixOf rest
  match rest with
  | [] => .ok rest
  | c :: _ => if !follows && mayContinue c then .error (.invalidLiteral kind) else .ok rest

/-- Skips decimal digits; an underscore has to stand between two of them. -/
def skipDecimals : Text → Except Fault Text
  | '_' :: d :: rest =>
    if d.isDigit then skipDecimals (d :: rest) else .error (.invalidLiteral "decimal")
  | ['_'] => .error (.invalidLiteral "decimal")
  | c :: rest => if c.isDigit then skipDecimals rest else .ok (c :: rest)
  | [] => .ok []

/-- What is needed next inside the digits of a number with another base. -/
inductive DigitState where
  | first
  | required
  | optional

def skipRadix (isDigit : Char → Bool) (kind : Text) : DigitState → Text → Except Fault Text
  | .optional, [] => .ok []
  | _, [] => .error (.invalidLiteral kind)
  | state, c :: rest =>
    if isDigit c then skipRadix isDigit kind .optional rest
    else if c.isDigit then .error (.invalidDigit c kind)
    else match state, c with
      | .first, '_' => skipRadix isDigit kind .required rest
      | .optional, '_' => skipRadix isDigit kind .required rest
      | .optional, _ => .ok (c :: rest)
      | _, _ => .error (.invalidLiteral kind)

def skipImaginary (rest : Text) : Except Fault Text :=
  match rest with
  | 'j' :: rest => numberEnd "imaginary" rest
  | 'J' :: rest => numberEnd "imaginary" rest
  | _ => numberEnd "decimal" rest

/-- Skips an exponent. An `e` without digits after it is not part of the number. -/
def skipExponent (rest : Text) : Except Fault Text :=
  let go (e : Char) (after : Text) : Except Fault Text := do
    match after with
    | s :: d :: more =>
      if s = '+' || s = '-' then
        if d.isDigit then skipDecimals (d :: more) >>= skipImaginary
        else .error (.invalidLiteral "decimal")
      else if s.isDigit then skipDecimals after >>= skipImaginary
      else numberEnd "decimal" (e :: after)
    | [s] =>
      if s = '+' || s = '-' then .error (.invalidLiteral "decimal")
      else if s.isDigit then .ok []
      else numberEnd "decimal" (e :: after)
    | [] => numberEnd "decimal" [e]
  match rest with
  | 'e' :: after => go 'e' after
  | 'E' :: after => go 'E' after
  | _ => skipImaginary rest

/-- Skips what can follow a decimal point. -/
def skipFraction (rest : Text) : Except Fault Text :=
  match rest with
  | d :: _ => if d.isDigit then skipDecimals rest >>= skipExponent else skipExponent rest
  | [] => .ok []

/-- Skips what can follow the digits before a decimal point. -/
def skipTail (rest : Text) : Except Fault Text :=
  match rest with
  | '.' :: after => skipFraction after
  | _ => skipExponent rest

/-- Skips the zeros at the start of a number. -/
def skipZeros : Text → Except Fault Text
  | '_' :: d :: rest =>
    if d.isDigit then skipZeros (d :: rest) else .error (.invalidLiteral "decimal")
  | ['_'] => .error (.invalidLiteral "decimal")
  | '0' :: rest => skipZeros rest
  | rest => .ok rest

/-- Skips a number that starts with a zero and has no other base. -/
def skipZeroNumber (rest : Text) : Except Fault Text := do
  let rest ← skipZeros rest
  match rest with
  | d :: _ =>
    if d.isDigit then
      let rest ← skipDecimals rest
      match rest with
      | '.' :: _ | 'e' :: _ | 'E' :: _ | 'j' :: _ | 'J' :: _ => skipTail rest
      | _ => .error .leadingZeros
    else skipTail rest
  | [] => .ok []

def isOctal (c : Char) : Bool :=
  '0' ≤ c && c ≤ '7'

def isHex (c : Char) : Bool :=
  c.isDigit || ('a' ≤ c && c ≤ 'f') || ('A' ≤ c && c ≤ 'F')

/-- Skips a number that starts with a digit. -/
def skipNumber (text : Text) : Except Fault Text :=
  let radix (isDigit : Char → Bool) (kind : Text) (rest : Text) : Except Fault Text :=
    skipRadix isDigit kind .first rest >>= numberEnd kind
  match text with
  | '0' :: c :: rest =>
    if c = 'x' || c = 'X' then radix isHex "hexadecimal" rest
    else if c = 'o' || c = 'O' then radix isOctal "octal" rest
    else if c = 'b' || c = 'B' then radix (fun c => c = '0' || c = '1') "binary" rest
    else skipZeroNumber (c :: rest)
  | _ => skipDecimals text >>= skipTail

/-! ## Strings -/

/-- Reads a string up to its closing quotes. `seen` counts the quotes just read, and the text read
so far is held backwards. The last component says whether the string was closed. -/
def stringBody (quote : Char) (size : Nat) : Nat → Bool → Text → Text → Text × Text × Bool
  | _, _, acc, [] => (acc, [], false)
  | seen, escaped, acc, c :: cs =>
    if escaped then stringBody quote size 0 false (c :: acc) cs
    else if size = 1 && c = '\n' then (acc, c :: cs, false)
    else if c = quote then
      if seen + 1 = size then (c :: acc, cs, true)
      else stringBody quote size (seen + 1) false (c :: acc) cs
    else stringBody quote size 0 (c = '\\') (c :: acc) cs

/-- Reads a string whose first character is its opening quote. -/
def readString (quote : Char) (text : Text) : Text × Text × Bool × Bool :=
  let read (size : Nat) : Text × Text × Bool × Bool :=
    let r := stringBody quote size 0 false (text.take size).reverse (text.drop size)
    (r.1.reverse, r.2.1, r.2.2, size = 3)
  match text with
  | a :: b :: c :: rest =>
    if a = b && b = c then read 3 else if a = b then ([a, b], c :: rest, true, false) else read 1
  | [a, b] => if a = b then ([a, b], [], true, false) else read 1
  | _ => read 1

/-- The letters that may stand before a string: `b`, `u`, `r`, `f` or two of them that go
together. -/
def isStringMark (letters : Text) : Bool :=
  ["b", "u", "r", "f", "br", "rb", "fr", "rf"].any fun m =>
    m.toList = letters.map Char.toLower

/-! ## Operators -/

def longOperators : List Text :=
  List.map String.toList
    ["**=", "//=", "<<=", ">>=", "...", "!=", "%=", "&=", "**", "*=", "+=", "-=", "->", "//", "/=",
      "<<", "<=", "<>", "==", ">=", ">>", "@=", "^=", "|=", ":="]

def closes (opening close : Char) : Bool :=
  (opening = '(' && close = ')') || (opening = '[' && close = ']')
    || (opening = '\x7b' && close = '\x7d')

/-! ## Indentation -/

/-- The width of a line's indentation with tabs to multiples of eight, the width with tabs as one
column, and the width before the first line that was continued. -/
structure Margin where
  width : Nat
  narrow : Nat
  kept : Nat

/-- Reads the indentation of a line. -/
def readMargin (m : Margin) (line col : Nat) : Text → Except (Fault × Nat) (Margin × Cursor)
  | ' ' :: rest =>
    readMargin { m with width := m.width + 1, narrow := m.narrow + 1 } line (col + 1) rest
  | '\t' :: rest =>
    readMargin { m with width := (m.width / 8 + 1) * 8, narrow := m.narrow + 1 } line (col + 1) rest
  | '\x0c' :: rest => readMargin { m with width := 0, narrow := 0 } line (col + 1) rest
  | ['\\', '\n'] => .error (.unexpectedEnd, line)
  | '\\' :: '\n' :: rest =>
    readMargin { m with kept := if m.kept = 0 then m.width else m.kept } (line + 1) 0 rest
  | '\\' :: _ => .error (.afterContinuation, line)
  | rest => .ok (m, { rest := rest, line := line, col := col })

/-- How indentation changes at a line: the levels afterwards, and whether one was entered or how
many were left. A level is a pair of widths. -/
def indentStep (levels : List (Nat × Nat)) (m : Margin) :
    Except Fault (List (Nat × Nat) × Bool × Nat) :=
  let width := if m.kept = 0 then m.width else m.kept
  let narrow := if m.kept = 0 then m.narrow else m.kept
  let top := levels.headD (0, 0)
  if width = top.1 then
    if narrow = top.2 then .ok (levels, false, 0) else .error .tabsAndSpaces
  else if top.1 < width then
    if 100 ≤ levels.length + 1 then .error .tooManyLevels
    else if narrow ≤ top.2 then .error .tabsAndSpaces
    else .ok ((width, narrow) :: levels, true, 0)
  else
    let kept := levels.dropWhile (width < ·.1)
    let top := kept.headD (0, 0)
    if width ≠ top.1 then .error .inconsistentDedent
    else if narrow ≠ top.2 then .error .tabsAndSpaces
    else .ok (kept, false, levels.length - kept.length)

/-! ## Scanning -/

structure Scanner where
  here : Cursor
  brackets : List Bracket
  levels : List (Nat × Nat)
  /-- The tokens so far, backwards. -/
  found : List Token

namespace Scanner

/-- Ends the tokens with a fault. -/
def stopAt (s : Scanner) (fault : Fault) (line : Nat) (eager : Bool) : List Token :=
  let why := { fault := fault, line := line, eager := eager, inside := s.brackets.head? }
  ({ kind := .stop why, text := [], line := s.here.line, col := s.here.col, endLine := s.here.line,
     depth := s.brackets.length } :: s.found).reverse

/-- Adds a token of some length. -/
def push (s : Scanner) (kind : Kind) (taken rest : Text) : Scanner :=
  let after := s.here.past taken rest
  { s with
    here := after
    found := { kind := kind, text := taken, line := s.here.line, col := s.here.col,
               endLine := after.line, depth := s.brackets.length } :: s.found }

/-- Adds a token without text. -/
def pushMark (s : Scanner) (kind : Kind) : Scanner :=
  { s with
    found := { kind := kind, text := [], line := s.here.line, col := s.here.col,
               endLine := s.here.line, depth := s.brackets.length } :: s.found }

def pushMarks (s : Scanner) (kind : Kind) : Nat → Scanner
  | 0 => s
  | n + 1 => (s.pushMark kind).pushMarks kind n

/-- What one step leads to: more scanning, at the start of a line or within one, or the end. -/
inductive Next where
  | line (s : Scanner)
  | within (s : Scanner)
  | done (tokens : List Token)

/-- The first character of an identifier's text that its place does not allow. -/
def badCharacter? (t : Text) : Option Char :=
  match t with
  | [] => none
  | c :: cs =>
    if Text.isIdentifierStart c then cs.find? (!Text.isIdentifierContinue ·) else some c

def scanString (s : Scanner) (mark : Text) (quote : Char) (rest : Text) : Next :=
  let r := readString quote (quote :: rest)
  if r.2.2.1 then .within (s.push .string (mark ++ r.1) r.2.1)
  else
    let after := s.here.past (mark ++ r.1) r.2.1
    .done (s.stopAt (.unterminatedString r.2.2.2 after.line) s.here.line true)

def scanName (s : Scanner) (text : Text) : Next :=
  let taken := text.takeWhile mayContinue
  let rest := text.dropWhile mayContinue
  match rest with
  | c :: more =>
    if (c = '"' || c = '\'') && isStringMark taken then scanString s taken c more
    else name taken rest
  | [] => name taken rest
where
  name (taken rest : Text) : Next :=
    match badCharacter? taken with
    | some c =>
      let fault := if Text.isPrintable c then Fault.invalidCharacter c else .unprintableCharacter c
      .done (s.stopAt fault s.here.line true)
    | none => .within (s.push (if keywords.contains taken then .keyword else .name) taken rest)

def scanOperator (s : Scanner) (c : Char) (rest : Text) : Next :=
  match longOperators.find? (·.isPrefixOf (c :: rest)) with
  | some o => .within (s.push .operator o ((c :: rest).drop o.length))
  | none =>
    if c = '(' || c = '[' || c = '\x7b' then
      if 200 ≤ s.brackets.length then .done (s.stopAt .tooManyBrackets s.here.line true)
      else
        let s := { s with brackets := { char := c, line := s.here.line } :: s.brackets }
        .within (s.push .operator [c] rest)
    else if c = ')' || c = ']' || c = '\x7d' then
      match s.brackets with
      | [] => .done (s.stopAt (.unmatched c) s.here.line true)
      | b :: outer =>
        if closes b.char c then .within ({ s with brackets := outer }.push .operator [c] rest)
        else
          let line := if b.line = s.here.line then none else some b.line
          .done (s.stopAt (.mismatched c b.char line) s.here.line true)
    else if !Text.isPrintable c then .done (s.stopAt (.unprintableCharacter c) s.here.line true)
    else .within (s.push .operator [c] rest)

/-- Reads the next token within a line. -/
def scanWithin (s : Scanner) : Next :=
  match s.here.rest with
  | [] =>
    match s.brackets with
    | b :: _ => .done (s.stopAt (.neverClosed b.char) b.line false)
    | [] => .done (s.pushMark .finish).found.reverse
  | c :: rest =>
    if c = ' ' || c = '\t' || c = '\x0c' then
      let blanks := s.here.rest.takeWhile fun c => c = ' ' || c = '\t' || c = '\x0c'
      .within { s with here := s.here.past blanks (s.here.rest.drop blanks.length) }
    else if c = '#' then
      let comment := s.here.rest.takeWhile (· ≠ '\n')
      .within { s with here := s.here.past comment (s.here.rest.drop comment.length) }
    else if c = '\n' then
      if s.brackets.isEmpty then
        let s := s.pushMark .newline
        .line { s with here := s.here.past [c] rest }
      else .line { s with here := s.here.past [c] rest }
    else if c = '\\' then
      match rest with
      | ['\n'] =>
        match s.brackets with
        | b :: _ => .done (s.stopAt (.neverClosed b.char) b.line false)
        | [] => .done (s.stopAt .unexpectedEnd s.here.line false)
      | '\n' :: more => .within { s with here := s.here.past [c, '\n'] more }
      | _ => .done (s.stopAt .afterContinuation s.here.line false)
    else if c.isDigit then number
    else if c = '.' && (rest.head?.any Char.isDigit) then number
    else if c = '"' || c = '\'' then s.scanString [] c rest
    else if mayContinue c then s.scanName s.here.rest
    else s.scanOperator c rest
where
  number : Next :=
    let text := s.here.rest.takeWhile fun c => mayContinue c || c = '.' || c = '+' || c = '-'
    let after := match text with
      | '.' :: rest => skipFraction rest
      | _ => skipNumber text
    match after with
    | .error fault => .done (s.stopAt fault s.here.line true)
    | .ok rest =>
      let taken := text.take (text.length - rest.length)
      .within (s.push .number taken (s.here.rest.drop taken.length))

/-- Reads the indentation of a line. A line with nothing but a comment has none. -/
def scanLine (s : Scanner) : Next :=
  match readMargin { width := 0, narrow := 0, kept := 0 } s.here.line s.here.col s.here.rest with
  | .error (fault, line) =>
    match fault, s.brackets with
    | .unexpectedEnd, b :: _ => .done (s.stopAt (.neverClosed b.char) b.line false)
    | _, _ => .done ({ s with here := { s.here with line := line } }.stopAt fault line false)
  | .ok (m, c) =>
    let s := { s with here := c }
    let blank := match c.rest with
      | '#' :: _ => true
      | '\n' :: _ => true
      | _ => false
    if blank then
      let line := c.rest.takeWhile (· ≠ '\n')
      match c.rest.drop line.length with
      | n :: rest => .line { s with here := c.past (line ++ [n]) rest }
      | [] => .within { s with here := c.past line [] }
    else if !s.brackets.isEmpty then .within s
    else match indentStep s.levels m with
      | .error fault => .done (s.stopAt fault c.line false)
      | .ok (levels, entered, left) =>
        let s := { s with levels := levels }
        .within (if entered then s.pushMark .indent else s.pushMarks .dedent left)

/-- Scans with a bound on the number of steps. -/
def run : Nat → Next → List Token
  | _, .done tokens => tokens
  | 0, .line s => s.found.reverse
  | 0, .within s => s.found.reverse
  | n + 1, .line s => run n s.scanLine
  | n + 1, .within s => run n s.scanWithin

end Scanner

/-- Turns the line ends `\r\n` and `\r` into line feeds. -/
def unifyLines : Text → Text
  | [] => []
  | '\x0d' :: '\n' :: rest => '\n' :: unifyLines rest
  | '\x0d' :: rest => '\n' :: unifyLines rest
  | c :: rest => c :: unifyLines rest

/-- The tokens of a text that starts at some line and column. Every step but the last one of a
line takes at least one character, so twice the length is enough. -/
def scanAt (line col : Nat) (source : Text) : List Token :=
  let text := unifyLines source
  let text := if text.getLast? = some '\n' then text else text ++ ['\n']
  let start : Scanner :=
    { here := { rest := text, line := line, col := col }
      brackets := [], levels := [], found := [] }
  Scanner.run (2 * text.length + 4) (.line start)

def scan (source : Text) : List Token :=
  scanAt 1 0 source

end Token

end CodeReview.Source
