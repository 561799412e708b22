import CodeReview.Bytes

/-!
Digests of bytes: what the ways to compute them have in common.

A message is filled up to whole blocks, with its length in bits at the end, and each block changes
a state of a few words.
-/

namespace CodeReview.Digest

/-- The last bytes of a number, the least first. -/
def littleEndian : Nat → Nat → Bytes
  | 0, _ => []
  | count + 1, n => UInt8.ofNat n :: littleEndian count (n / 256)

def bigEndian (count n : Nat) : Bytes :=
  (littleEndian count n).reverse

def ofBigEndian (bs : Bytes) : Nat :=
  bs.foldl (fun n b => n * 256 + b.toNat) 0

def ofLittleEndian (bs : Bytes) : Nat :=
  ofBigEndian bs.reverse

/-- The parts of a list with so many elements each; `fuel` bounds their number. -/
def cutAux {α : Type} (size : Nat) : Nat → List α → List (List α)
  | 0, _ => []
  | _, [] => []
  | fuel + 1, l => l.take size :: cutAux size fuel (l.drop size)

def cut {α : Type} (size : Nat) (l : List α) : List (List α) :=
  cutAux size l.length l

/-- A message filled up to blocks: a bit that is set, bits that are not, and the given bytes of its
length in bits. -/
def padded (block : Nat) (length message : Bytes) : List Bytes :=
  let size := message.length + 1 + length.length
  let zeros := (block - size % block) % block
  cut block (message ++ 0x80 :: List.replicate zeros 0 ++ length)

/-- Bytes as hexadecimal digits in lower case. -/
def hex (bs : Bytes) : Text :=
  bs.flatMap fun b => Text.hex 2 b.toNat

end CodeReview.Digest
