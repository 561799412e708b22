/-!
Text is a list of characters, so a length counts code points and a position is an index into the
list. This module has the operations on plain text that need no knowledge of character classes:
lines, searching, replacing, cutting and padding.
-/

namespace CodeReview

abbrev Text := List Char

instance : Coe String Text := ⟨String.toList⟩

namespace Text

/-- The pieces between line feeds. There is always at least one, and an ending line feed is
followed by an empty piece. -/
def lines : Text → List Text
  | [] => [[]]
  | c :: cs =>
    if c = '\n' then [] :: lines cs
    else match lines cs with
      | [] => [[c]]
      | l :: ls => (c :: l) :: ls

/-- Puts a separator between the pieces. -/
def join (sep : Text) : List Text → Text
  | [] => []
  | [t] => t
  | t :: ts => t ++ ts.flatMap (sep ++ ·)

def unlines (ls : List Text) : Text :=
  join ['\n'] ls

/-- Lines that come in groups. -/
def sections (groups : List (List Text)) : Text :=
  unlines groups.flatten

def startsWith (t p : Text) : Bool :=
  p.isPrefixOf t

def endsWith (t s : Text) : Bool :=
  s.isSuffixOf t

/-- Whether `p` occurs in `t`; the empty text occurs everywhere. -/
def contains (t p : Text) : Bool :=
  match t with
  | [] => p.isEmpty
  | c :: cs => p.isPrefixOf (c :: cs) || contains cs p

/-- The position of the first occurrence of `p`. -/
def find? (t p : Text) : Option Nat :=
  match t with
  | [] => if p.isEmpty then some 0 else none
  | c :: cs => if p.isPrefixOf (c :: cs) then some 0 else (find? cs p).map (· + 1)

/-- `find?` that looks only at positions from `start` on. -/
def findFrom? (t p : Text) (start : Nat) : Option Nat :=
  if start ≤ t.length then (find? (t.drop start) p).map (· + start) else none

/-- The first position at which something can be read, and what that is. -/
def firstAt? {α : Type} (read : Text → Option α) : Text → Option (Nat × α)
  | [] => (read []).map fun a => (0, a)
  | c :: cs =>
    match read (c :: cs) with
    | some a => some (0, a)
    | none => (firstAt? read cs).map fun p => (p.1 + 1, p.2)

/-- The pieces between the occurrences of a non-empty separator, found from the left without
overlap. `skip` counts the characters of an occurrence that are still to be passed over. -/
def splitAux (sep : Text) : Nat → Text → Text → List Text
  | _, acc, [] => [acc.reverse]
  | skip + 1, acc, _ :: cs => splitAux sep skip acc cs
  | 0, acc, c :: cs =>
    if sep.isPrefixOf (c :: cs) then acc.reverse :: splitAux sep (sep.length - 1) [] cs
    else splitAux sep 0 (c :: acc) cs

def split (t sep : Text) : List Text :=
  splitAux sep 0 [] t

/-- Replaces every occurrence of a non-empty text. -/
def replace (t old new : Text) : Text :=
  join new (split t old)

/-- The number of occurrences of a non-empty text that do not overlap. -/
def countOf (t p : Text) : Nat :=
  (split t p).length - 1

/-- Turns an index that may count from the end into one from the start, kept within the text. -/
def clampIndex (length : Nat) (i : Int) : Nat :=
  if i < 0 then (i + length).toNat else min i.toNat length

/-- The elements from one index up to another; an index below zero counts from the end. -/
def slice {α : Type} (l : List α) (start stop : Int) : List α :=
  let a := clampIndex l.length start
  let b := clampIndex l.length stop
  (l.take b).drop a

def repeated (n : Nat) (c : Char) : Text :=
  List.replicate n c

/-- Fills with blanks on the left up to a width. -/
def padLeft (width : Nat) (t : Text) : Text :=
  List.replicate (width - t.length) ' ' ++ t

/-- Fills with blanks on the right up to a width. -/
def padRight (width : Nat) (t : Text) : Text :=
  t ++ List.replicate (width - t.length) ' '

/-- Drops the characters of a class from the right end. -/
def dropRightWhile (p : Char → Bool) (t : Text) : Text :=
  (t.reverse.dropWhile p).reverse

def ofNat (n : Nat) : Text :=
  Nat.toDigits 10 n

def ofInt : Int → Text
  | .ofNat n => ofNat n
  | .negSucc n => '-' :: ofNat (n + 1)

/-- Hexadecimal digits in lower case, at least `width` of them. -/
def hex (width n : Nat) : Text :=
  let ds := Nat.toDigits 16 n
  List.replicate (width - ds.length) '0' ++ ds

/-- Orders texts by the first code point in which they differ. -/
def lt (a b : Text) : Bool :=
  match a, b with
  | _, [] => false
  | [], _ :: _ => true
  | x :: xs, y :: ys => if x = y then lt xs ys else x.val < y.val

def le (a b : Text) : Bool :=
  !lt b a

end Text

end CodeReview
