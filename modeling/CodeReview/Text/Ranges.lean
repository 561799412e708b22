import CodeReview.Text.Basic

/-!
Sets of characters outside ASCII, as ranges of code points.
-/

namespace CodeReview.Text

/-- The value of digits to the base of 62, which are figures, capitals and small letters. -/
def digitsValue (ds : Text) : Nat :=
  ds.foldl (fun n c =>
    62 * n + (c.toNat - if c.isDigit then 48 else if c.isUpper then 55 else 61)) 0

/-- The numbers of a row: two digits after a full stop, four after a comma, and one otherwise. -/
def numbers : Text → List Nat
  | [] => []
  | '.' :: a :: b :: rest => digitsValue [a, b] :: numbers rest
  | ',' :: a :: b :: c :: d :: rest => digitsValue [a, b, c, d] :: numbers rest
  | a :: rest => digitsValue [a] :: numbers rest

def numberRows (rows : String) : List Nat :=
  (lines rows.toList).flatMap numbers

/-- Pairs of a first and a last code point. -/
abbrev Ranges := List (Nat × Nat)

/-- Ranges by their lengths: from a code point on, the numbers of code points that are out and that
are in, in turn. -/
def Ranges.ofLengths : Nat → List Nat → Ranges
  | start, gap :: length :: rest =>
    (start + gap, start + gap + length - 1) :: ofLengths (start + gap + length) rest
  | _, _ => []

def Ranges.has (rs : Ranges) (c : Char) : Bool :=
  rs.any fun r => r.1 ≤ c.toNat && c.toNat ≤ r.2

/-- Ranges of which only every code point at a multiple of a step counts: first, last, step. -/
abbrev Steps := List (Nat × Nat × Nat)

/-- Steps by their lengths: from a code point on, the number of code points that are out, the number
that count and the step, in turn. -/
def Steps.ofLengths : Nat → List Nat → Steps
  | start, gap :: count :: step :: rest =>
    let last := start + gap + (count - 1) * step
    (start + gap, last, step) :: ofLengths (last + 1) rest
  | _, _ => []

def Steps.has (rs : Steps) (c : Char) : Bool :=
  rs.any fun r => r.1 ≤ c.toNat && c.toNat ≤ r.2.1 && (c.toNat - r.1) % r.2.2 == 0

/-- Steps whose code points move by an offset: first, last, step, offset. -/
abbrev Moves := List (Nat × Nat × Nat × Int)

/-- Moves by their lengths: the number of code points that are out, the number that move, the step
and how far they move down and up, in turn. -/
def Moves.ofLengths : Nat → List Nat → Moves
  | start, gap :: count :: step :: down :: up :: rest =>
    let last := start + gap + (count - 1) * step
    (start + gap, last, step, up - down) :: ofLengths (last + 1) rest
  | _, _ => []

/-- Consecutive code points that become several: the first, their number, and what the first of them
becomes. The first of what they become goes up with them. -/
abbrev Runs := List (Nat × Nat × List Nat)

/-- Runs by their lengths: the number of code points that are out, the number that are in and what
the first of these becomes, which are three numbers or fewer and noughts. -/
def Runs.ofLengths : Nat → List Nat → Runs
  | start, gap :: count :: a :: b :: c :: rest =>
    (start + gap, count, [a, b, c].filter (0 < ·)) :: ofLengths (start + gap + count) rest
  | _, _ => []

def Runs.becomes? (rs : Runs) (n : Nat) : Option (List Nat) :=
  (rs.find? fun r => r.1 ≤ n && n < r.1 + r.2.1).map fun r =>
    match r.2.2 with
    | [] => []
    | m :: ms => (m + (n - r.1)) :: ms

end CodeReview.Text
