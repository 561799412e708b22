import CodeReview.Digest.Sha2
import CodeReview.Source.Language

/-!
Sources up to comments and blank space, and digests of them.
-/

namespace CodeReview.Likeness

open Source

/-- The quote of the string that is open after a character. Strings end in their line, and a
backslash is a character like any other. -/
def quoteAfter (inside : Option Char) (c : Char) : Option Char :=
  if c = '\'' || c = '"' then
    match inside with
    | none => some c
    | some q => if q = c then none else some q
  else inside

/-- Whether a place in a line is inside of a string. -/
def insideString (line : Text) (pos : Int) : Bool :=
  ((line.take pos.toNat).foldl quoteAfter none).isSome

/-- A line without its comment. A line whose first hash sign is inside of a string is left as it
is. -/
def normalLine (line : Text) : Text :=
  let line := Text.stripRight line
  match line.findIdx? (· = '#') with
  | none => line
  | some pos => if insideString line pos then line else Text.stripRight (line.take pos)

/-- The normal form of a source: no comments, no blank lines, nothing blank at the ends of lines. -/
def normalForm (source : Text) : Text :=
  Text.unlines (((Text.lines source).map normalLine).filter fun line => !Text.allBlank line)

/-- The digest of a text, in hexadecimal digits. -/
def textDigest (t : Text) : Text :=
  Digest.hex (Digest.sha256 (Text.utf8 t))

/-- The digest of a source up to comments and blank space. -/
def sourceDigest (source : Text) : Text :=
  textDigest (normalForm source)

/-- The lines of the first function with a name. -/
def functionText? (source name : Text) : Option Text := do
  let tree ← treeOf source
  let span ← tree.walk.findSome? fun n =>
    match n with
    | .functionDef span _ id .. => if id = name then some span else none
    | _ => none
  return Text.unlines
    (Text.slice (Text.lines source) ((span.line : Int) - 1) span.endLine)

def functionDigest? (source name : Text) : Option Text :=
  (functionText? source name).map sourceDigest

end CodeReview.Likeness
