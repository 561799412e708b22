import CodeReview.Number.Binary

/-!
The fewest decimal digits that read back as a given floating-point number.

For one digit, two digits and so on, the two decimals around the number are tried. The first count
of digits with a decimal inside the rounding interval wins; of two such decimals, the nearer.
-/

namespace CodeReview.Number

/-- Numerators over one denominator: a number and the ends of the interval that rounds to it. -/
structure Interval where
  value : Nat
  low : Nat
  high : Nat
  den : Nat
  closed : Bool

/-- The interval of `m · 2 ^ e`. Below a power of two the neighbours are closer. -/
def Interval.of (m : Nat) (e : Int) : Interval :=
  let narrow := m = Nat.pow 2 52 && -1074 < e
  let scale := if 0 ≤ e - 2 then Nat.pow 2 (e - 2).toNat else 1
  let den := if 0 ≤ e - 2 then 1 else Nat.pow 2 (2 - e).toNat
  { value := 4 * m * scale
    low := (if narrow then 4 * m - 1 else 4 * m - 2) * scale
    high := (4 * m + 2) * scale
    den := den
    closed := m % 2 = 0 }

/-- `q · 10 ^ k` lies in the interval. -/
def Interval.has (i : Interval) (q : Nat) (k : Int) : Bool :=
  let num := if 0 ≤ k then q * Nat.pow 10 k.toNat * i.den else q * i.den
  let low := if 0 ≤ k then i.low else i.low * Nat.pow 10 (-k).toNat
  let high := if 0 ≤ k then i.high else i.high * Nat.pow 10 (-k).toNat
  if i.closed then low ≤ num && num ≤ high else low < num && num < high

/-- The place `p` of the decimal point: the value is at least `10 ^ (p - 1)` and below `10 ^ p`. -/
def Interval.place (i : Interval) : Int :=
  let below (p : Int) : Bool :=
    if 0 ≤ p then i.value < Nat.pow 10 p.toNat * i.den
    else i.value * Nat.pow 10 (-p).toNat < i.den
  let guess := (((i.value.log2 : Int) - i.den.log2) * 1233) / 4096
  if below (guess - 1) then guess - 1
  else if below guess then guess
  else if below (guess + 1) then guess + 1
  else guess + 2

/-- Tries `count` digits: the decimals just below and just above. -/
def Interval.candidate (i : Interval) (p : Int) (count : Nat) : Option (Nat × Int) :=
  let k := p - count
  let num := if 0 ≤ k then i.value else i.value * Nat.pow 10 (-k).toNat
  let den := if 0 ≤ k then i.den * Nat.pow 10 k.toNat else i.den
  let q := num / den
  let r := num % den
  match i.has q k, i.has (q + 1) k with
  | true, true =>
    if 2 * r < den || (2 * r = den && q % 2 = 0) then some (q, k) else some (q + 1, k)
  | true, false => some (q, k)
  | false, true => some (q + 1, k)
  | false, false => none

/-- Digits and the place of the decimal point before the first of them, for `m · 2 ^ e` with
`m > 0`. Seventeen digits always suffice. -/
def shortest (m : Nat) (e : Int) : List Char × Int :=
  let i := Interval.of m e
  let p := i.place
  match (List.range' 1 17).findSome? fun count => i.candidate p count with
  | none => ([], p)
  | some (q, k) =>
    let ds := Nat.toDigits 10 q
    let kept := (ds.reverse.dropWhile (· = '0')).reverse
    (kept, k + ds.length)

end CodeReview.Number
