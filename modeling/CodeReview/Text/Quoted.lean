import CodeReview.Text.Printable
import CodeReview.Text.Basic

/-!
Texts in quotes, with escapes for what cannot be shown. Single quotes are used, unless the text has
single quotes and no double ones.
-/

namespace CodeReview.Text

/-- The escape of a code point by its number, in the shortest of three widths. -/
def numericEscape (n : Nat) : Text :=
  if n < 0x100 then "\\x" ++ hex 2 n
  else if n < 0x10000 then "\\u" ++ hex 4 n
  else "\\U" ++ hex 8 n

/-- The escape of a character that has to be escaped. -/
def escaped (c : Char) : Text :=
  match c with
  | '\\' => "\\\\"
  | '\t' => "\\t"
  | '\n' => "\\n"
  | '\x0d' => "\\r"
  | c => numericEscape c.toNat

def quotedChar (quote : Char) (c : Char) : Text :=
  if c = quote then ['\\', c]
  else if c = '\\' || !isPrintable c then escaped c
  else [c]

def quoted (t : Text) : Text :=
  let quote := if t.any (· = '\'') && !t.any (· = '"') then '"' else '\''
  [quote] ++ t.flatMap (quotedChar quote) ++ [quote]

/-- Bytes in quotes, marked with a `b`. -/
def quotedBytes (bs : List UInt8) : Text :=
  let quote := if bs.any (· = 39) && !bs.any (· = 34) then '"' else '\''
  let one (b : UInt8) : Text :=
    let c := Char.ofNat b.toNat
    if c = quote then ['\\', c]
    else if c = '\\' || c = '\t' || c = '\n' || c = '\x0d' then escaped c
    else if b < 32 || 126 < b then "\\x" ++ hex 2 b.toNat
    else [c]
  ['b', quote] ++ bs.flatMap one ++ [quote]

end CodeReview.Text
