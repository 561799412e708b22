import CodeReview.Digest.Basic

/-!
Two older digests with words of 32 bits, SHA-1 and MD5.
-/

namespace CodeReview.Digest

abbrev Word := BitVec 32

namespace Sha1

/-- More words of the schedule, in reverse order. -/
def extend : Nat → List Word → List Word
  | 0, ws => ws
  | n + 1, ws =>
    let word (i : Nat) := ws.getD i 0
    extend n ((word 2 ^^^ word 7 ^^^ word 13 ^^^ word 15).rotateLeft 1 :: ws)

def schedule (block : Bytes) : List Word :=
  let ws := (cut 4 block).map fun w => BitVec.ofNat 32 (ofBigEndian w)
  (extend 64 ws.reverse).reverse

/-- What a round does with three words of the state, and its constant. -/
def choice (number : Nat) (b c d : Word) : Word × Word :=
  if number < 20 then ((b &&& c) ||| (~~~b &&& d), 0x5a827999)
  else if number < 40 then (b ^^^ c ^^^ d, 0x6ed9eba1)
  else if number < 60 then ((b &&& c) ||| (b &&& d) ||| (c &&& d), 0x8f1bbcdc)
  else (b ^^^ c ^^^ d, 0xca62c1d6)

def round (state : List Word) (w : Word) (number : Nat) : List Word :=
  match state with
  | [a, b, c, d, e] =>
    let (f, k) := choice number b c d
    [a.rotateLeft 5 + f + e + k + w, a, b.rotateLeft 30, c, d]
  | state => state

def absorb (state : List Word) (block : Bytes) : List Word :=
  let after := (schedule block).zipIdx.foldl (fun st p => round st p.1 p.2) state
  List.zipWith (· + ·) state after

end Sha1

def sha1 (message : Bytes) : Bytes :=
  let blocks := padded 64 (bigEndian 8 (8 * message.length)) message
  let start : List Word := [0x67452301, 0xefcdab89, 0x98badcfe, 0x10325476, 0xc3d2e1f0]
  (blocks.foldl Sha1.absorb start).flatMap fun w => bigEndian 4 w.toNat

namespace Md5

def constants : List Word :=
  [
    0xd76aa478, 0xe8c7b756, 0x242070db, 0xc1bdceee, 0xf57c0faf, 0x4787c62a, 0xa8304613,
    0xfd469501, 0x698098d8, 0x8b44f7af, 0xffff5bb1, 0x895cd7be, 0x6b901122, 0xfd987193,
    0xa679438e, 0x49b40821, 0xf61e2562, 0xc040b340, 0x265e5a51, 0xe9b6c7aa, 0xd62f105d,
    0x02441453, 0xd8a1e681, 0xe7d3fbc8, 0x21e1cde6, 0xc33707d6, 0xf4d50d87, 0x455a14ed,
    0xa9e3e905, 0xfcefa3f8, 0x676f02d9, 0x8d2a4c8a, 0xfffa3942, 0x8771f681, 0x6d9d6122,
    0xfde5380c, 0xa4beea44, 0x4bdecfa9, 0xf6bb4b60, 0xbebfbc70, 0x289b7ec6, 0xeaa127fa,
    0xd4ef3085, 0x04881d05, 0xd9d4d039, 0xe6db99e5, 0x1fa27cf8, 0xc4ac5665, 0xf4292244,
    0x432aff97, 0xab9423a7, 0xfc93a039, 0x655b59c3, 0x8f0ccc92, 0xffeff47d, 0x85845dd1,
    0x6fa87e4f, 0xfe2ce6e0, 0xa3014314, 0x4e0811a1, 0xf7537e82, 0xbd3af235, 0x2ad7d2bb,
    0xeb86d391]

/-- How far a round rotates. -/
def rotation (number : Nat) : Nat :=
  let row := match number / 16 with
    | 0 => [7, 12, 17, 22]
    | 1 => [5, 9, 14, 20]
    | 2 => [4, 11, 16, 23]
    | _ => [6, 10, 15, 21]
  row.getD (number % 4) 0

/-- What a round does with three words of the state, and which word of the block it takes. -/
def choice (number : Nat) (b c d : Word) : Word × Nat :=
  match number / 16 with
  | 0 => ((b &&& c) ||| (~~~b &&& d), number)
  | 1 => ((d &&& b) ||| (~~~d &&& c), (5 * number + 1) % 16)
  | 2 => (b ^^^ c ^^^ d, (3 * number + 5) % 16)
  | _ => (c ^^^ (b ||| ~~~d), (7 * number) % 16)

def round (ws : Array Word) (state : List Word) (k : Word) (number : Nat) : List Word :=
  match state with
  | [a, b, c, d] =>
    let (f, index) := choice number b c d
    [d, b + (a + f + k + ws.getD index 0).rotateLeft (rotation number), b, c]
  | state => state

def absorb (state : List Word) (block : Bytes) : List Word :=
  let ws := ((cut 4 block).map fun w => BitVec.ofNat 32 (ofLittleEndian w)).toArray
  let after := constants.zipIdx.foldl (fun st p => round ws st p.1 p.2) state
  List.zipWith (· + ·) state after

end Md5

def md5 (message : Bytes) : Bytes :=
  let blocks := padded 64 (littleEndian 8 (8 * message.length)) message
  let start : List Word := [0x67452301, 0xefcdab89, 0x98badcfe, 0x10325476]
  (blocks.foldl Md5.absorb start).flatMap fun w => littleEndian 4 w.toNat

end CodeReview.Digest
