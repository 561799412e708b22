import CodeReview.Text.PrintableTable

/-!
Characters that can be shown as themselves.
-/

namespace CodeReview.Text

def isPrintable (c : Char) : Bool :=
  let n := c.toNat
  if n < 128 then 32 ≤ n && n < 127 else !unprintableTable.has c

end CodeReview.Text
