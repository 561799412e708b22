import CodeReview.Number.Basic
import CodeReview.Source.Node
import CodeReview.Source.Token
import CodeReview.Text.CharacterName

/-!
The values of number and string literals.
-/

namespace CodeReview.Source.Literal

/-! ## Numbers -/

def digitValue (c : Char) : Nat :=
  if c.isDigit then c.toNat - 48
  else if 'a' ≤ c && c ≤ 'f' then c.toNat - 87
  else if 'A' ≤ c && c ≤ 'F' then c.toNat - 55
  else 0

def inBase (base : Nat) (ds : Text) : Nat :=
  ds.foldl (fun n c => base * n + digitValue c) 0

/-- The number that a decimal with an optional fraction and exponent stands for. -/
def realValue (t : Text) : Float :=
  let isMark (c : Char) : Bool := c = 'e' || c = 'E'
  let mantissa := t.takeWhile (!isMark ·)
  let exponent := (t.drop mantissa.length).drop 1
  let whole := mantissa.takeWhile (· ≠ '.')
  let fraction := (mantissa.drop whole.length).drop 1
  let e : Int := match exponent with
    | '-' :: ds => -(inBase 10 ds : Int)
    | '+' :: ds => inBase 10 ds
    | ds => inBase 10 ds
  Number.nearestDecimal false (inBase 10 (whole ++ fraction)) (e - fraction.length)

/-- The value of a number. Underscores between digits have no meaning. -/
def number (text : Text) : Except Fault Constant :=
  let t := text.filter (· ≠ '_')
  match t with
  | '0' :: 'x' :: ds | '0' :: 'X' :: ds => .ok (.int (inBase 16 ds))
  | '0' :: 'o' :: ds | '0' :: 'O' :: ds => .ok (.int (inBase 8 ds))
  | '0' :: 'b' :: ds | '0' :: 'B' :: ds => .ok (.int (inBase 2 ds))
  | _ =>
    if t.getLast? = some 'j' || t.getLast? = some 'J' then .ok (.imaginary (realValue t.dropLast))
    else if t.any (fun c => c = '.' || c = 'e' || c = 'E') then .ok (.real (realValue t))
    else if 4300 < t.length && t.any (· ≠ '0') then .error (.tooManyDigits t.length)
    else .ok (.int (inBase 10 t))

/-! ## Strings -/

/-- A string token taken apart. -/
structure Quoted where
  raw : Bool
  bytes : Bool
  formatted : Bool
  /-- Marked with a `u`. -/
  marked : Bool
  /-- The length of the mark and the opening quotes. -/
  opening : Nat
  body : Text

def Quoted.of (token : Text) : Quoted :=
  let mark := token.takeWhile Char.isAlpha
  let rest := token.drop mark.length
  let size := match rest with
    | a :: b :: c :: _ => if a = b && b = c then 3 else 1
    | _ => 1
  let has (c : Char) : Bool := mark.any fun m => m.toLower = c
  { raw := has 'r'
    bytes := has 'b'
    formatted := has 'f'
    marked := mark = ['u']
    opening := mark.length + size
    body := (rest.drop size).take (rest.length - 2 * size) }

/-- Escapes of one character that are the same in texts and bytes. -/
def simpleEscape (c : Char) : Option Char :=
  match c with
  | '\\' => some '\\'
  | '\'' => some '\''
  | '"' => some '"'
  | 'a' => some '\x07'
  | 'b' => some '\x08'
  | 'f' => some '\x0c'
  | 'n' => some '\n'
  | 'r' => some '\x0d'
  | 't' => some '\t'
  | 'v' => some '\x0b'
  | _ => none

/-- How far a character counts in the position of a faulty escape: one outside ASCII counts as its
longest escape. -/
def escapeWidth (c : Char) : Nat :=
  if c.toNat < 128 then 1 else 10

/-- An escape with a fixed number of hexadecimal digits. -/
def hexEscape (shape : Text) (count pos : Nat) (rest : Text) : Except Fault (Char × Nat) :=
  let ds := (rest.take count).takeWhile Token.isHex
  if ds.length < count then
    .error (.badEscape ("truncated " ++ shape ++ " escape") pos (pos + 1 + ds.length))
  else
    let n := inBase 16 ds
    if 0x10FFFF < n then .error (.badEscape "illegal Unicode character" pos (pos + 1 + count))
    else .ok (Char.ofNat n, count)

/-- An escape that names a character, after the `N`. -/
def nameEscape (pos : Nat) (rest : Text) : Except Fault (Char × Nat) :=
  let malformed (stop : Nat) : Except Fault (Char × Nat) :=
    .error (.badEscape "malformed \\N character escape" pos stop)
  match rest with
  | '\x7b' :: inner =>
    let name := inner.takeWhile (· ≠ '\x7d')
    let width := name.foldl (fun n c => n + escapeWidth c) 0
    if inner.length ≤ name.length then malformed (pos + 2 + width)
    else if name.isEmpty then malformed (pos + 2)
    else match Text.characterNamed? name with
      | some c => .ok (c, name.length + 2)
      | none => .error (.badEscape "unknown Unicode character name" pos (pos + 3 + width))
  | _ => malformed (pos + 1)

/-- Replaces the escapes of a text. The count bounds the characters left, `pos` is the position in
the text, and `acc` what has been read, backwards. -/
def unescapeAux : Nat → Nat → Text → Text → Except Fault Text
  | 0, _, acc, _ => .ok acc.reverse
  | _, _, acc, [] => .ok acc.reverse
  | n + 1, pos, acc, '\\' :: c :: rest =>
    let step (r : Except Fault (Char × Nat)) : Except Fault Text :=
      match r with
      | .error f => .error f
      | .ok (d, used) => unescapeAux n (pos + 2 + used) (d :: acc) (rest.drop used)
    if c = '\n' then unescapeAux n (pos + 2) acc rest
    else match simpleEscape c with
      | some d => unescapeAux n (pos + 2) (d :: acc) rest
      | none =>
        if Token.isOctal c then
          let ds := c :: (rest.take 2).takeWhile Token.isOctal
          unescapeAux n (pos + 1 + ds.length) (Char.ofNat (inBase 8 ds) :: acc)
            (rest.drop (ds.length - 1))
        else if c = 'x' then step (hexEscape "\\xXX" 2 pos rest)
        else if c = 'u' then step (hexEscape "\\uXXXX" 4 pos rest)
        else if c = 'U' then step (hexEscape "\\UXXXXXXXX" 8 pos rest)
        else if c = 'N' then step (nameEscape pos rest)
        else
          let width := if c.toNat < 128 then 1 else 6
          unescapeAux n (pos + width) ('\\' :: acc) (c :: rest)
  | n + 1, pos, acc, c :: rest => unescapeAux n (pos + escapeWidth c) (c :: acc) rest

def unescape (t : Text) : Except Fault Text :=
  unescapeAux (2 * t.length) 0 [] t

/-- Replaces the escapes of bytes. -/
def unescapeBytesAux : Nat → Nat → List UInt8 → Text → Except Fault (List UInt8)
  | 0, _, acc, _ => .ok acc.reverse
  | _, _, acc, [] => .ok acc.reverse
  | n + 1, pos, acc, '\\' :: c :: rest =>
    if c = '\n' then unescapeBytesAux n (pos + 2) acc rest
    else match simpleEscape c with
      | some d => unescapeBytesAux n (pos + 2) (d.toNat.toUInt8 :: acc) rest
      | none =>
        if Token.isOctal c then
          let ds := c :: (rest.take 2).takeWhile Token.isOctal
          unescapeBytesAux n (pos + 1 + ds.length) ((inBase 8 ds).toUInt8 :: acc)
            (rest.drop (ds.length - 1))
        else if c = 'x' then
          let ds := (rest.take 2).takeWhile Token.isHex
          if ds.length < 2 then .error (.badByteEscape pos)
          else unescapeBytesAux n (pos + 4) ((inBase 16 ds).toUInt8 :: acc) (rest.drop 2)
        else unescapeBytesAux n (pos + 1) ('\\'.toNat.toUInt8 :: acc) (c :: rest)
  | n + 1, pos, acc, c :: rest => unescapeBytesAux n (pos + 1) (c.toNat.toUInt8 :: acc) rest

def unescapeBytes (t : Text) : Except Fault (List UInt8) :=
  unescapeBytesAux (2 * t.length) 0 [] t

/-- The text of a literal, with or without escapes. -/
def textValue (raw : Bool) (t : Text) : Except Fault Text :=
  if raw || !t.any (· = '\\') then .ok t else unescape t

def bytesValue (raw : Bool) (t : Text) : Except Fault (List UInt8) :=
  if raw then .ok (t.map fun c => c.toNat.toUInt8) else unescapeBytes t

end CodeReview.Source.Literal
