import CodeReview.Bytes
import CodeReview.Failure
import CodeReview.Text.Case

/-!
Bytes as texts, in several encodings.
-/

namespace CodeReview

inductive Encoding where
  | utf8
  /-- UTF-8 with a mark at the start that is not part of the text. -/
  | utf8Marked
  | ascii
  | latin1
  | latin9
  | windows1252
  /-- Units of two bytes; without an order the bytes have to start with a mark that tells it. -/
  | utf16 (bigEndian : Option Bool)
  /-- Units of four bytes. -/
  | utf32 (bigEndian : Option Bool)
  deriving DecidableEq, Repr

namespace Encoding

/-! ## UTF-8 -/

/-- The start of a character of several bytes: where it is, its first byte, how many bytes are still
to come, the range of the next one, and the bits so far. -/
structure Lead where
  start : Nat
  byte : UInt8
  owed : Nat
  low : Nat
  high : Nat
  bits : Nat

/-- What the first byte of a longer character asks for. -/
def lead? (start : Nat) (b : UInt8) : Option Lead :=
  let n := b.toNat
  let lead (owed low high bits : Nat) : Option Lead :=
    some { start := start, byte := b, owed := owed, low := low, high := high, bits := bits }
  if 0xC2 ≤ n && n ≤ 0xDF then lead 1 0x80 0xBF (n - 0xC0)
  else if n = 0xE0 then lead 2 0xA0 0xBF 0
  else if n = 0xED then lead 2 0x80 0x9F 0xD
  else if 0xE1 ≤ n && n ≤ 0xEF then lead 2 0x80 0xBF (n - 0xE0)
  else if n = 0xF0 then lead 3 0x90 0xBF 0
  else if 0xF1 ≤ n && n ≤ 0xF3 then lead 3 0x80 0xBF (n - 0xF0)
  else if n = 0xF4 then lead 3 0x80 0x8F 4
  else none

def utf8Fault (start stop : Nat) (byte : UInt8) (reason : Text) : Undecodable :=
  { encoding := "utf-8", byte := byte, start := start, stop := stop, reason := reason }

/-- Reads bytes from a place on, perhaps in the middle of a character. -/
def decodeUtf8From : Nat → Option Lead → Bytes → Except Undecodable Text
  | _, none, [] => .ok []
  | pos, some l, [] => .error (utf8Fault l.start pos l.byte "unexpected end of data")
  | pos, none, b :: bs =>
    if b < 0x80 then (Char.ofNat b.toNat :: ·) <$> decodeUtf8From (pos + 1) none bs
    else match lead? pos b with
      | some l => decodeUtf8From (pos + 1) (some l) bs
      | none => .error (utf8Fault pos (pos + 1) b "invalid start byte")
  | pos, some l, b :: bs =>
    if l.low ≤ b.toNat && b.toNat ≤ l.high then
      let bits := l.bits * 64 + (b.toNat - 0x80)
      if l.owed = 1 then (Char.ofNat bits :: ·) <$> decodeUtf8From (pos + 1) none bs
      else decodeUtf8From (pos + 1)
        (some { l with owed := l.owed - 1, low := 0x80, high := 0xBF, bits := bits }) bs
    else .error (utf8Fault l.start pos l.byte "invalid continuation byte")

def decodeUtf8 (bs : Bytes) : Except Undecodable Text :=
  decodeUtf8From 0 none bs

/-! ## Units of several bytes -/

/-- Bytes in groups of two or four as numbers; there may be bytes left over. -/
def units (size : Nat) (bigEndian : Bool) : Nat → Bytes → Option (List Nat)
  | _, [] => some []
  | 0, _ => none
  | fuel + 1, bs =>
    let unit := bs.take size
    if unit.length < size then none
    else
      let ordered := if bigEndian then unit else unit.reverse
      (ordered.foldl (fun n b => n * 256 + b.toNat) 0 :: ·) <$>
        units size bigEndian fuel (bs.drop size)

def isHigh (u : Nat) : Bool :=
  0xD800 ≤ u && u < 0xDC00

def isLow (u : Nat) : Bool :=
  0xDC00 ≤ u && u < 0xE000

/-- Units of UTF-16, perhaps after the first half of a pair. -/
def fromUnits16 : Option Nat → List Nat → Option Text
  | none, [] => some []
  | some _, [] => none
  | some h, u :: us =>
    if isLow u then
      (Char.ofNat (0x10000 + (h - 0xD800) * 1024 + (u - 0xDC00)) :: ·) <$> fromUnits16 none us
    else none
  | none, u :: us =>
    if isHigh u then fromUnits16 (some u) us
    else if isLow u then none
    else (Char.ofNat u :: ·) <$> fromUnits16 none us

def fromUnits32 (us : List Nat) : Option Text :=
  us.mapM fun u => if u < 0x110000 && !isHigh u && !isLow u then some (Char.ofNat u) else none

/-- Bytes in units of two or four with a known order. -/
def fromUnits (size : Nat) (bigEndian : Bool) (bs : Bytes) : Option Text := do
  let us ← units size bigEndian bs.length bs
  if size = 2 then fromUnits16 none us else fromUnits32 us

/-! ## One byte for each character -/

/-- The characters for the bytes from 0x80 to 0x9F; some bytes have none. -/
def windowsCodes : List Nat :=
  [0x20AC, 0, 0x201A, 0x0192, 0x201E, 0x2026, 0x2020, 0x2021, 0x02C6, 0x2030, 0x0160, 0x2039,
    0x0152, 0, 0x017D, 0, 0, 0x2018, 0x2019, 0x201C, 0x201D, 0x2022, 0x2013, 0x2014, 0x02DC,
    0x2122, 0x0161, 0x203A, 0x0153, 0, 0x017E, 0x0178]

def windowsCode (n : Nat) : Option Nat :=
  if 0x80 ≤ n && n < 0xA0 then
    match windowsCodes[n - 0x80]? with
    | some 0 | none => none
    | some c => some c
  else some n

def latin9Code (n : Nat) : Nat :=
  match n with
  | 0xA4 => 0x20AC
  | 0xA6 => 0x160
  | 0xA8 => 0x161
  | 0xB4 => 0x17D
  | 0xB8 => 0x17E
  | 0xBC => 0x152
  | 0xBD => 0x153
  | 0xBE => 0x178
  | n => n

def single (code : Nat → Option Nat) (bs : Bytes) : Option Text :=
  bs.mapM fun b => (code b.toNat).map Char.ofNat

/-! ## All encodings -/

/-- What reading bytes may end with. -/
inductive Outcome where
  | text (t : Text)
  | undecodable (u : Undecodable)
  /-- The bytes are refused for another reason, such as an order that they do not tell. -/
  | refused (why : Failure)

/-- The fault of bytes for which it does not matter where it is. -/
def someFault (encoding : Text) (bs : Bytes) : Undecodable :=
  { encoding := encoding, byte := bs.head?.getD 0, start := 0, stop := 1, reason := "illegal data" }

def outcomeOf (encoding : Text) (bs : Bytes) : Option Text → Outcome
  | some t => .text t
  | none => .undecodable (someFault encoding bs)

/-- Bytes that may start with a mark of their order. -/
def decodeMarked (size : Nat) (name : Text) (little big : Bytes) (bs : Bytes) : Outcome :=
  if little.isPrefixOf bs then outcomeOf name bs (fromUnits size false (bs.drop size))
  else if big.isPrefixOf bs then outcomeOf name bs (fromUnits size true (bs.drop size))
  else match fromUnits size false bs with
    | none => .undecodable (someFault name bs)
    | some t => if bs.length < size then .text t else .refused (.noByteOrder name)

def decode (e : Encoding) (bs : Bytes) : Outcome :=
  let ofUtf8 (bs : Bytes) : Outcome := match decodeUtf8 bs with
    | .ok t => .text t
    | .error u => .undecodable u
  match e with
  | utf8 => ofUtf8 bs
  | utf8Marked => ofUtf8 (if [0xEF, 0xBB, 0xBF].isPrefixOf bs then bs.drop 3 else bs)
  | ascii => outcomeOf "ascii" bs (single (fun n => if n < 128 then some n else none) bs)
  | latin1 => outcomeOf "latin-1" bs (single some bs)
  | latin9 => outcomeOf "iso8859-15" bs (single (fun n => some (latin9Code n)) bs)
  | windows1252 => outcomeOf "cp1252" bs (single windowsCode bs)
  | utf16 (some big) => outcomeOf "utf-16" bs (fromUnits 2 big bs)
  | utf32 (some big) => outcomeOf "utf-32" bs (fromUnits 4 big bs)
  | utf16 none => decodeMarked 2 "UTF-16" [0xFF, 0xFE] [0xFE, 0xFF] bs
  | utf32 none => decodeMarked 4 "UTF-32" [0xFF, 0xFE, 0, 0] [0, 0, 0xFE, 0xFF] bs

/-- Any bytes as characters with these numbers. -/
def decodeLatin1 (bs : Bytes) : Text :=
  bs.map fun b => Char.ofNat b.toNat

/-! ## Names -/

/-- A name in lower case, with an underscore for anything between letters, digits and points. -/
def plainNameAux : Bool → Text → Text
  | _, [] => []
  | gap, c :: cs =>
    if c.isAlphanum || c = '.' then
      if gap then '_' :: c.toLower :: plainNameAux false cs else c.toLower :: plainNameAux false cs
    else plainNameAux true cs

def plainName (name : Text) : Text :=
  let t := plainNameAux false name
  if t.head? = some '_' then t.drop 1 else t

def aliases : List (Encoding × List String) :=
  [(utf8, ["utf_8", "u8", "utf", "utf8", "utf8_ucs2", "utf8_ucs4", "cp65001"]),
    (utf8Marked, ["utf_8_sig"]),
    (ascii, ["ascii", "646", "ansi_x3.4_1968", "ansi_x3_4_1968", "ansi_x3.4_1986", "cp367",
      "csascii", "ibm367", "iso646_us", "iso_646.irv_1991", "iso_ir_6", "us", "us_ascii"]),
    (latin1, ["latin_1", "8859", "cp819", "csisolatin1", "ibm819", "iso8859", "iso8859_1",
      "iso_8859_1", "iso_8859_1_1987", "iso_ir_100", "l1", "latin", "latin1"]),
    (latin9, ["iso8859_15", "iso_8859_15", "latin9", "l9"]),
    (windows1252, ["cp1252", "1252", "windows_1252"]),
    (utf16 none, ["utf_16", "u16", "utf16"]),
    (utf16 (some false), ["utf_16_le", "unicodelittleunmarked", "utf_16le"]),
    (utf16 (some true), ["utf_16_be", "unicodebigunmarked", "utf_16be"]),
    (utf32 none, ["utf_32", "u32", "utf32"]),
    (utf32 (some false), ["utf_32_le", "utf_32le"]),
    (utf32 (some true), ["utf_32_be", "utf_32be"])]

def named? (name : Text) : Option Encoding :=
  let plain := String.ofList (plainName name)
  (aliases.find? fun a => a.2.contains plain).map (·.1)

/-- How bytes are read under a name, or why they cannot be. -/
abbrev Registry := Text → Except Failure (Bytes → Outcome)

/-- The encodings under all their names. -/
def standard : Registry := fun name =>
  match named? name with
  | some e => .ok e.decode
  | none => .error (.unknownEncoding name)

end Encoding

/-- One line feed for every line end. -/
def plainLineEnds : Text → Text
  | [] => []
  | c :: cs =>
    if c = '\r' then
      if cs.head? = some '\n' then plainLineEnds cs else '\n' :: plainLineEnds cs
    else c :: plainLineEnds cs

/-- The text that is read in the end, with plain line ends. Bytes that are no text are read as one
character each. -/
def Encoding.Outcome.settle (bs : Bytes) : Outcome → Except Failure Text
  | text t => .ok (plainLineEnds t)
  | undecodable _ => .ok (plainLineEnds (decodeLatin1 bs))
  | refused why => .error why

/-- Bytes as a text with plain line ends, in UTF-8 if they can be, else a character for each
byte. -/
def textOfBytes (bs : Bytes) : Text :=
  plainLineEnds (match Encoding.decodeUtf8 bs with
    | .ok t => t
    | .error _ => Encoding.decodeLatin1 bs)

end CodeReview
