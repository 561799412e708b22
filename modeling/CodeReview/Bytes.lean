import CodeReview.Text.Basic

/-!
Bytes, and texts as bytes.
-/

namespace CodeReview

abbrev Bytes := List UInt8

/-- The bytes of a text in UTF-8. -/
def Text.utf8 (t : Text) : Bytes :=
  t.flatMap String.utf8EncodeChar

def hexDigit (c : Char) : Nat :=
  if c.isDigit then c.toNat - 48 else c.toLower.toNat - 87

/-- Bytes written as pairs of hexadecimal digits. -/
def Bytes.ofHex : Text → Bytes
  | a :: b :: rest => UInt8.ofNat (hexDigit a * 16 + hexDigit b) :: Bytes.ofHex rest
  | _ => []

end CodeReview
