import CodeReview.Text.IdentifierTable

/-!
Characters that may start and continue an identifier.
-/

namespace CodeReview.Text

def isIdentifierStart (c : Char) : Bool :=
  if c.toNat < 128 then c.isAlpha || c = '_' else identifierStartTable.has c

def isIdentifierContinue (c : Char) : Bool :=
  if c.toNat < 128 then c.isAlphanum || c = '_'
  else identifierStartTable.has c || identifierContinueTable.has c

end CodeReview.Text
