import CodeReview.Value

/-!
Reading JSON texts. A reader works on the characters that are left and counts those that it has
passed, so that a fault is reported with its place. Of two fields with one name the last wins.
-/

namespace CodeReview.Json

/-- Why a text is not JSON. -/
inductive Problem where
  | byteOrderMark
  | value
  | propertyName
  | colon
  | comma
  | extraData
  | unterminatedText
  | controlCharacter
  | escape
  | unitEscape
  deriving DecidableEq, Repr, Inhabited

namespace Problem

def message : Problem → Text
  | byteOrderMark => "Unexpected UTF-8 BOM (decode using utf-8-sig)"
  | value => "Expecting value"
  | propertyName => "Expecting property name enclosed in double quotes"
  | colon => "Expecting ':' delimiter"
  | comma => "Expecting ',' delimiter"
  | extraData => "Extra data"
  | unterminatedText => "Unterminated string starting at"
  | controlCharacter => "Invalid control character at"
  | escape => "Invalid \\escape"
  | unitEscape => "Invalid \\uXXXX escape"

end Problem

/-- A problem and the position at which it was met. -/
structure Fault where
  problem : Problem
  pos : Nat
  deriving DecidableEq, Repr, Inhabited

/-- The fault in words, with its line and column in the text. -/
def Fault.message (f : Fault) (t : Text) : Text :=
  let before := t.take f.pos
  let line := before.countP (· = '\n') + 1
  let column := (before.reverse.takeWhile (· ≠ '\n')).length + 1
  f.problem.message ++ ": line " ++ Text.ofNat line ++ " column " ++ Text.ofNat column ++ " (char "
    ++ Text.ofNat f.pos ++ ")"

/-- What is left of a text, and the position of that. -/
structure Rest where
  pos : Nat
  chars : Text

namespace Rest

def isSpace (c : Char) : Bool :=
  c = ' ' || c = '\t' || c = '\n' || c = '\x0d'

def advance (r : Rest) (n : Nat) : Rest :=
  ⟨r.pos + n, r.chars.drop n⟩

def skipSpace (r : Rest) : Rest :=
  r.advance (r.chars.takeWhile isSpace).length

end Rest

def fault {α : Type} (p : Problem) (pos : Nat) : Except Fault α :=
  .error ⟨p, pos⟩

def hexValue? (c : Char) : Option Nat :=
  if c.isDigit then some (c.toNat - 48)
  else if 'a' ≤ c && c ≤ 'f' then some (c.toNat - 87)
  else if 'A' ≤ c && c ≤ 'F' then some (c.toNat - 55)
  else none

/-- The number that four hexadecimal digits stand for. -/
def fourDigits? (t : Text) : Option Nat :=
  match t with
  | a :: b :: c :: d :: _ => do
    return (((← hexValue? a) * 16 + (← hexValue? b)) * 16 + (← hexValue? c)) * 16 + (← hexValue? d)
  | _ => none

def simpleEscape? (c : Char) : Option Char :=
  match c with
  | '"' => some '"'
  | '\\' => some '\\'
  | '/' => some '/'
  | 'b' => some '\x08'
  | 'f' => some '\x0c'
  | 'n' => some '\n'
  | 'r' => some '\x0d'
  | 't' => some '\t'
  | _ => none

/-- The character of a numeric escape and the number of characters after the `u` that it takes.
Two escapes may be the halves of one character; a lone half gives the replacement character.
`t` is what follows the `u` and `pos` its position. -/
def numericEscape (pos : Nat) (t : Text) : Except Fault (Char × Nat) :=
  if t.length ≤ 4 then fault .unitEscape pos
  else match fourDigits? t with
    | none => fault .unitEscape (pos - 1)
    | some unit =>
      let lone : Char × Nat :=
        (if 0xD800 ≤ unit && unit < 0xE000 then Char.ofNat 0xFFFD else Char.ofNat unit, 4)
      match t.drop 4 with
      | '\\' :: 'u' :: more =>
        if 0xD800 ≤ unit && unit < 0xDC00 && 4 < more.length then
          match fourDigits? more with
          | none => fault .unitEscape (pos + 5)
          | some low =>
            if 0xDC00 ≤ low && low < 0xE000 then
              .ok (Char.ofNat (0x10000 + (unit - 0xD800) * 0x400 + (low - 0xDC00)), 10)
            else .ok lone
        else .ok lone
      | _ => .ok lone

/-- The rest of a text in quotes. `start` is the position of the opening quote; `skip` counts the
characters of an escape that are still to be passed over. -/
def readText (start : Nat) : Nat → Nat → Text → Text → Except Fault (Text × Rest)
  | _, _, _, [] => fault .unterminatedText start
  | skip + 1, pos, acc, _ :: cs => readText start skip (pos + 1) acc cs
  | 0, pos, acc, c :: cs =>
    if c = '"' then .ok (acc.reverse, ⟨pos + 1, cs⟩)
    else if c = '\\' then
      match cs with
      | [] => fault .unterminatedText start
      | 'u' :: more =>
        match numericEscape (pos + 2) more with
        | .error f => .error f
        | .ok (e, n) => readText start (n + 1) (pos + 1) (e :: acc) cs
      | e :: _ =>
        match simpleEscape? e with
        | none => fault .escape pos
        | some e => readText start 1 (pos + 1) (e :: acc) cs
    else if c.toNat < 32 then fault .controlCharacter pos
    else readText start 0 (pos + 1) (c :: acc) cs

/-- The value of decimal digits. -/
def decimal (ds : Text) : Nat :=
  ds.foldl (fun n d => n * 10 + (d.toNat - 48)) 0

/-- A number at the start of a text, and how many characters it takes. -/
def readNumber? (t : Text) : Option (Number × Nat) :=
  let negative := t.head? = some '-'
  let t := if negative then t.drop 1 else t
  let sign := if negative then 1 else 0
  let whole := match t with
    | '0' :: _ => ['0']
    | _ => t.takeWhile Char.isDigit
  if whole.isEmpty then none
  else
    let t := t.drop whole.length
    let fraction := match t with
      | '.' :: more => more.takeWhile Char.isDigit
      | _ => []
    let fractionSize := if fraction.isEmpty then 0 else fraction.length + 1
    let t := t.drop fractionSize
    let exponent : Option (Bool × Text × Nat) := match t with
      | e :: more =>
        if e = 'e' || e = 'E' then
          let minus := more.head? = some '-'
          let signed := minus || more.head? = some '+'
          let ds := (more.drop (if signed then 1 else 0)).takeWhile Char.isDigit
          if ds.isEmpty then none else some (minus, ds, ds.length + if signed then 2 else 1)
        else none
      | [] => none
    let size := sign + whole.length + fractionSize + ((exponent.map (·.2.2)).getD 0)
    if fraction.isEmpty && exponent.isNone then
      let n : Int := decimal whole
      some (.int (if negative then -n else n), size)
    else
      let e : Int := match exponent with
        | some (minus, ds, _) => if minus then -(decimal ds : Int) else decimal ds
        | none => 0
      some (.real (Number.nearestDecimal negative (decimal (whole ++ fraction))
        (e - fraction.length)), size)

/-- The words that are values. -/
def words : List (Text × Value) :=
  [("null".toList, .null), ("true".toList, .bool true), ("false".toList, .bool false),
    ("NaN".toList, .number (.real (0.0 / 0.0))), ("Infinity".toList, .number (.real (1.0 / 0.0))),
    ("-Infinity".toList, .number (.real (-1.0 / 0.0)))]

mutual

/-- One value. The first argument bounds the depth and the number of parts. -/
def readValue : Nat → Rest → Except Fault (Value × Rest)
  | 0, r => fault .value r.pos
  | fuel + 1, r =>
    match r.chars with
    | '"' :: cs => do
      let (t, r) ← readText r.pos 0 (r.pos + 1) [] cs
      return (.text t, r)
    | '\x7b' :: _ =>
      let r := (r.advance 1).skipSpace
      match r.chars with
      | '\x7d' :: _ => .ok (.object [], r.advance 1)
      | _ => readFields fuel [] r
    | '[' :: _ =>
      let r := (r.advance 1).skipSpace
      match r.chars with
      | ']' :: _ => .ok (.list [], r.advance 1)
      | _ => readItems fuel [] r
    | _ =>
      match words.find? fun w => w.1.isPrefixOf r.chars with
      | some (w, v) => .ok (v, r.advance w.length)
      | none =>
        match readNumber? r.chars with
        | some (n, size) => .ok (.number n, r.advance size)
        | none => fault .value r.pos

/-- The fields of an object from a name on. -/
def readFields : Nat → List (Text × Value) → Rest → Except Fault (Value × Rest)
  | 0, _, r => fault .value r.pos
  | fuel + 1, acc, r =>
    match r.chars with
    | '"' :: cs => do
      let (name, r) ← readText r.pos 0 (r.pos + 1) [] cs
      let r := r.skipSpace
      match r.chars with
      | ':' :: _ =>
        let (v, r) ← readValue fuel (r.advance 1).skipSpace
        let acc := (name, v) :: acc
        let r := r.skipSpace
        match r.chars with
        | '\x7d' :: _ => return (.object (Entries.ofPairs acc.reverse), r.advance 1)
        | ',' :: _ => readFields fuel acc (r.advance 1).skipSpace
        | _ => fault .comma r.pos
      | _ => fault .colon r.pos
    | _ => fault .propertyName r.pos

/-- The items of a list. -/
def readItems : Nat → List Value → Rest → Except Fault (Value × Rest)
  | 0, _, r => fault .value r.pos
  | fuel + 1, acc, r => do
    let (v, r) ← readValue fuel r
    let acc := v :: acc
    let r := r.skipSpace
    match r.chars with
    | ']' :: _ => return (.list acc.reverse, r.advance 1)
    | ',' :: _ => readItems fuel acc (r.advance 1).skipSpace
    | _ => fault .comma r.pos

end

/-- Reads a whole text as one value. -/
def read (t : Text) : Except Fault Value :=
  if t.head? = some (Char.ofNat 0xFEFF) then fault .byteOrderMark 0
  else do
    let (v, r) ← readValue (2 * t.length + 2) (Rest.skipSpace ⟨0, t⟩)
    let r := r.skipSpace
    if r.chars.isEmpty then return v else fault .extraData r.pos

end CodeReview.Json
