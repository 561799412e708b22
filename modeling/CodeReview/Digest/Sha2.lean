import CodeReview.Digest.Basic

/-!
The digests of the SHA-2 family: the same computation with words of 32 or of 64 bits.
-/

namespace CodeReview.Digest

structure Sha2 (bits : Nat) where
  /-- Two rotations and a shift, or three rotations, for each of the four mixing functions. -/
  early : Nat × Nat × Nat
  late : Nat × Nat × Nat
  first : Nat × Nat × Nat
  fifth : Nat × Nat × Nat
  constants : List (BitVec bits)
  start : List (BitVec bits)
  /-- The bytes of the digest. -/
  size : Nat

namespace Sha2

variable {bits : Nat}

def mix (r : Nat × Nat × Nat) (x : BitVec bits) : BitVec bits :=
  x.rotateRight r.1 ^^^ x.rotateRight r.2.1 ^^^ x.rotateRight r.2.2

def mixShift (r : Nat × Nat × Nat) (x : BitVec bits) : BitVec bits :=
  x.rotateRight r.1 ^^^ x.rotateRight r.2.1 ^^^ (x >>> r.2.2)

/-- More words of the schedule, in reverse order. -/
def extend (s : Sha2 bits) : Nat → List (BitVec bits) → List (BitVec bits)
  | 0, ws => ws
  | n + 1, ws =>
    let word (i : Nat) := ws.getD i 0
    extend s n ((mixShift s.late (word 1) + word 6 + mixShift s.early (word 14) + word 15) :: ws)

/-- One word for each constant, from the sixteen words of a block. -/
def schedule (s : Sha2 bits) (block : Bytes) : List (BitVec bits) :=
  let ws := (cut (bits / 8) block).map fun w => BitVec.ofNat bits (ofBigEndian w)
  (s.extend (s.constants.length - 16) ws.reverse).reverse

/-- One round: a state, a word and a constant. -/
def round (s : Sha2 bits) (state : List (BitVec bits)) (w k : BitVec bits) : List (BitVec bits) :=
  match state with
  | [a, b, c, d, e, f, g, h] =>
    let x := h + mix s.fifth e + ((e &&& f) ^^^ (~~~e &&& g)) + k + w
    let y := mix s.first a + ((a &&& b) ^^^ (a &&& c) ^^^ (b &&& c))
    [x + y, a, b, c, d + x, e, f, g]
  | state => state

def absorb (s : Sha2 bits) (state : List (BitVec bits)) (block : Bytes) : List (BitVec bits) :=
  let after :=
    (List.zip (s.schedule block) s.constants).foldl (fun st p => s.round st p.1 p.2) state
  List.zipWith (· + ·) state after

def digest (s : Sha2 bits) (message : Bytes) : Bytes :=
  let blocks := padded (2 * bits) (bigEndian (bits / 4) (8 * message.length)) message
  let final := blocks.foldl s.absorb s.start
  (final.flatMap fun w => bigEndian (bits / 8) w.toNat).take s.size

end Sha2

/-! ## Constants

All constants are bits of roots of the first primes, from the point on. -/

/-- The first eighty primes; a smaller number that is none has a factor of at most twenty. -/
def primes : List Nat :=
  (List.range 410).filter fun n =>
    2 ≤ n && (List.range 21).all fun d => d < 2 || n ≤ d || n % d ≠ 0

/-- The largest number with a power that is not above `n`, from a part of it and its other bits. -/
def rootFrom (power n : Nat) : Nat → Nat → Nat
  | 0, r => r
  | bits + 1, r =>
    let more := r + Nat.pow 2 bits
    rootFrom power n bits (if Nat.pow more power ≤ n then more else r)

/-- The first 64 bits of roots after the point. -/
def rootBits (power : Nat) (ps : List Nat) : List (BitVec 64) :=
  ps.map fun p => BitVec.ofNat 64 (rootFrom power (p * Nat.pow 2 (64 * power)) 69 0)

/-- The first halves of words. -/
def firstHalves (ws : List (BitVec 64)) : List (BitVec 32) :=
  ws.map fun w => (w.ushiftRight 32).setWidth 32

def sha512Shape : Sha2 64 where
  early := (1, 8, 7)
  late := (19, 61, 6)
  first := (28, 34, 39)
  fifth := (14, 18, 41)
  constants := rootBits 3 primes
  start := rootBits 2 (primes.take 8)
  size := 64

def sha384Shape : Sha2 64 :=
  { sha512Shape with start := rootBits 2 ((primes.drop 8).take 8), size := 48 }

def sha256Shape : Sha2 32 where
  early := (7, 18, 3)
  late := (17, 19, 10)
  first := (2, 13, 22)
  fifth := (6, 11, 25)
  constants := firstHalves (sha512Shape.constants.take 64)
  start := firstHalves sha512Shape.start
  size := 32

/-- Starts with the second halves. -/
def sha224Shape : Sha2 32 :=
  { sha256Shape with start := sha384Shape.start.map (·.setWidth 32), size := 28 }

def sha256 (message : Bytes) : Bytes :=
  sha256Shape.digest message

end CodeReview.Digest
