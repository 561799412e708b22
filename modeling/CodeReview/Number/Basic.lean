import CodeReview.Text.Basic
import CodeReview.Number.Shortest

/-!
Numbers as results hold them: whole numbers of any size, and floating-point numbers. The two are
kept apart, since `0` and `0.0` are shown differently.
-/

namespace CodeReview

inductive Number where
  | int (i : Int)
  | real (x : Float)
  deriving Inhabited

namespace Number

instance : OfNat Number n := ⟨.int n⟩

instance : Coe Nat Number := ⟨fun n => .int n⟩

instance : Coe Int Number := ⟨.int⟩

/-- How floating-point numbers are written: positional from `10 ^ -4` up to `10 ^ 16`, with at
least one digit on each side of the point, and otherwise with an exponent of at least two
digits. -/
def writeDigits (ds : Text) (point : Int) : Text :=
  if point ≤ -4 || 16 < point then
    let e := point - 1
    let mantissa := match ds with
      | [d] => [d]
      | d :: rest => d :: '.' :: rest
      | [] => []
    let digits := Text.ofNat e.natAbs
    let digits := if digits.length < 2 then '0' :: digits else digits
    mantissa ++ ['e', if e < 0 then '-' else '+'] ++ digits
  else if point ≤ 0 then
    "0." ++ List.replicate (-point).toNat '0' ++ ds
  else if ds.length ≤ point.toNat then
    ds ++ List.replicate (point.toNat - ds.length) '0' ++ ".0"
  else ds.take point.toNat ++ "." ++ ds.drop point.toNat

def ofParts : Parts → Text
  | .nan => "nan"
  | .infinite negative => if negative then "-inf" else "inf"
  | .finite negative m e =>
    let s := shortest m e
    let size : Text := if m = 0 then "0.0" else writeDigits s.1 s.2
    if negative then '-' :: size else size

def realText (x : Float) : Text :=
  ofParts (.of x)

def toText : Number → Text
  | .int i => Text.ofInt i
  | .real x => realText x

/-- The number of digits that can be written. -/
def digitLimit : Nat :=
  4300

def tooLong : Number → Bool
  | .int i => Nat.pow 10 digitLimit ≤ i.natAbs
  | .real _ => false

/-- A number as a sign and a fraction; none for infinities and what is no number. -/
def fraction? : Number → Option (Bool × Nat × Nat)
  | .int i => some (i < 0, i.natAbs, 1)
  | .real x =>
    match Parts.of x with
    | .finite negative m e =>
      let f := shifted m 1 e
      some (negative, f.1, f.2)
    | _ => none

/-- A number as a floating-point number. -/
def toReal : Number → Float
  | .int i => nearest (i < 0) i.natAbs 1
  | .real x => x

/-- Whether an infinity is the lower one; other numbers have no answer. -/
def infinity? : Number → Option Bool
  | .int _ => none
  | .real x =>
    match Parts.of x with
    | .infinite negative => some negative
    | _ => none

/-- Compares exactly: a whole number is not rounded before it is compared. What is no number is
neither below nor above anything. -/
def lt (a b : Number) : Bool :=
  match a, b with
  | .int i, .int j => i < j
  | _, _ =>
    match a.fraction?, b.fraction? with
    | some (n, p, q), some (m, r, s) =>
      let x : Int := (if n then -1 else 1) * p * s
      let y : Int := (if m then -1 else 1) * r * q
      x < y
    | some _, none => b.infinity? = some false
    | none, some _ => a.infinity? = some true
    | none, none => a.infinity? = some true && b.infinity? = some false

def add : Number → Number → Number
  | .int i, .int j => .int (i + j)
  | a, b => .real (a.toReal + b.toReal)

def sum (xs : List Number) : Number :=
  xs.foldl add 0

/-- Division with a floating-point result. -/
def divNat (a : Number) (n : Nat) : Float :=
  match a with
  | .int i => nearest (i < 0) i.natAbs n
  | .real x => x / (nearest false n 1)

/-- The number of decimal digits. -/
def digitCount (n : Nat) : Nat :=
  (Text.ofNat n).length

/-- `num · 10 ^ s` over `den`, for a power of either sign, as a pair of natural numbers. -/
def scaled (num den : Nat) (s : Int) : Nat × Nat :=
  if 0 ≤ s then (num * Nat.pow 10 s.toNat, den) else (num, den * Nat.pow 10 (-s).toNat)

/-- The floating-point number nearest to `x` rounded to some significant digits, a half to the even
digit. -/
def significant (digits : Nat) (x : Float) : Float :=
  match fraction? (.real x) with
  | none => x
  | some (negative, num, den) =>
    if num = 0 then 0.0
    else
      let guess : Int := (digitCount num : Int) - digitCount den
      let top := scaled num den (-guess)
      let leading := if top.2 ≤ top.1 then guess else guess - 1
      let places : Int := digits - 1 - leading
      let f := scaled num den places
      nearestDecimal negative (roundDiv f.1 f.2) (-places)

/-- Rounds to a number of decimal places, a half to the even neighbour; whole numbers stay. -/
def roundTo (places : Nat) : Number → Number
  | .int i => .int i
  | .real x =>
    match Parts.of x with
    | .finite negative m e =>
      let f := shifted (m * Nat.pow 10 places) 1 e
      .real (nearestDecimal negative (roundDiv f.1 f.2) (-places))
    | _ => .real x

/-- Written with a fixed number of decimal places, at least one; a half goes to the even
neighbour. -/
def fixed (places : Nat) (a : Number) : Text :=
  match a.fraction? with
  | none => a.toText
  | some (negative, num, den) =>
    let n := roundDiv (num * Nat.pow 10 places) den
    let ds := Text.ofNat n
    let ds := List.replicate (places + 1 - ds.length) '0' ++ ds
    let size := ds.take (ds.length - places) ++ '.' :: ds.drop (ds.length - places)
    if negative then '-' :: size else size

end Number

end CodeReview
