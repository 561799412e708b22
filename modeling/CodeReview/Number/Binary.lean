/-!
Binary floating-point numbers as exact fractions.

`Parts` says which number a `Float` is: a natural number times a power of two. `nearest` goes back:
it gives the floating-point number closest to a fraction, and of two equally close ones that with
the even last bit.
-/

namespace CodeReview.Number

/-- What a floating-point number is: `m · 2 ^ e` with a sign, an infinity, or no number. -/
inductive Parts where
  | finite (negative : Bool) (m : Nat) (e : Int)
  | infinite (negative : Bool)
  | nan
  deriving DecidableEq, Repr

def Parts.ofBits (bits : Nat) : Parts :=
  let negative := bits / Nat.pow 2 63 = 1
  let exponent : Nat := bits / Nat.pow 2 52 % Nat.pow 2 11
  let fraction := bits % Nat.pow 2 52
  if exponent = 2047 then
    if fraction = 0 then .infinite negative else .nan
  else if exponent = 0 then .finite negative fraction (-1074)
  else .finite negative (Nat.pow 2 52 + fraction) ((exponent : Int) - 1075)

def Parts.of (x : Float) : Parts :=
  .ofBits x.toBits.toNat

/-- A quotient rounded to the nearest natural number, a half to the even one. -/
def roundDiv (num den : Nat) : Nat :=
  let q := num / den
  let r := num % den
  if 2 * r < den then q
  else if den < 2 * r then q + 1
  else if q % 2 = 0 then q else q + 1

/-- `num · 2 ^ s` over `den`, for a shift of either sign, as a pair of natural numbers. -/
def shifted (num den : Nat) (s : Int) : Nat × Nat :=
  if 0 ≤ s then (num * Nat.pow 2 s.toNat, den) else (num, den * Nat.pow 2 (-s).toNat)

/-- The bits of the floating-point number nearest to `num / den`. -/
def nearestBits (num den : Nat) : Nat :=
  if num = 0 then 0
  else
    let guess : Int := (num.log2 : Int) - den.log2 - 53
    let top := shifted num den (-guess)
    let guess := if Nat.pow 2 53 ≤ top.1 / top.2 then guess + 1 else guess
    let e := max guess (-1074)
    let scaled := shifted num den (-e)
    let m := roundDiv scaled.1 scaled.2
    let (m, e) := if m = Nat.pow 2 53 then (Nat.pow 2 52, e + 1) else (m, e)
    if 971 < e then 2047 * Nat.pow 2 52
    else if m < Nat.pow 2 52 then m
    else (e + 1075).toNat * Nat.pow 2 52 + (m - Nat.pow 2 52)

def nearest (negative : Bool) (num den : Nat) : Float :=
  Float.ofBits (UInt64.ofNat (nearestBits num den + if negative then Nat.pow 2 63 else 0))

/-- The floating-point number nearest to `m · 10 ^ e`. Exponents far outside the range of
floating-point numbers are cut off before a power of ten is formed. -/
def nearestDecimal (negative : Bool) (m : Nat) (e : Int) : Float :=
  let size : Int := (m.log2 : Int) / 4 + e
  if m = 0 then nearest negative 0 1
  else if 400 < size then nearest negative (Nat.pow 2 1100) 1
  else if size + (m.log2 : Int) < -800 then nearest negative 0 1
  else if 0 ≤ e then nearest negative (m * Nat.pow 10 e.toNat) 1
  else nearest negative m (Nat.pow 10 (-e).toNat)

end CodeReview.Number
