import CodeReview.Failure
import CodeReview.Files.Path

/-!
Patterns for names, as shells have them: a star stands for any text, a question mark for any
character, and brackets for one character of a set.
-/

namespace CodeReview

namespace Glob

/-- A set of characters by ranges. -/
structure Members where
  negated : Bool
  ranges : List (Char × Char)
  deriving DecidableEq, Repr

def Members.has (m : Members) (c : Char) : Bool :=
  m.negated != m.ranges.any fun r => r.1.val ≤ c.val && c.val ≤ r.2.val

inductive Piece where
  | anyText
  | anyChar
  | char (c : Char)
  | oneOf (m : Members)
  /-- A set that lost all its members matches nothing. -/
  | never
  deriving DecidableEq, Repr

/-- Cuts the inside of brackets at the hyphens that make ranges. A hyphen is taken from the second
character on (`skip` 1), and after a range from the third on. -/
def chunks : Nat → Text → Text → List Text
  | _, acc, [] => [acc.reverse]
  | 0, acc, c :: cs =>
    if c = '-' then acc.reverse :: chunks 2 [] cs else chunks 0 (c :: acc) cs
  | skip + 1, acc, c :: cs => chunks skip (c :: acc) cs

/-- A hyphen at the end belongs to the piece before it. -/
def closeChunks : List Text → List Text
  | [] => []
  | [a, []] => [a ++ ['-']]
  | a :: rest => a :: closeChunks rest

/-- Joins two neighbouring pieces whose range would be empty, from the right. -/
def dropEmptyRanges : List Text → List Text
  | [] => []
  | a :: rest =>
    match dropEmptyRanges rest with
    | [] => [a]
    | b :: more =>
      match a.getLast?, b.head? with
      | some lo, some hi =>
        if hi.val < lo.val then (a.dropLast ++ b.drop 1) :: more else a :: b :: more
      | _, _ => a :: b :: more

/-- The ranges of pieces: one between each two neighbours, and every other character alone. `used`
says that the first character of the first piece ends a range already. -/
def rangesOf : Bool → List Text → List (Char × Char)
  | _, [] => []
  | used, a :: rest =>
    let a := if used then a.drop 1 else a
    match a.getLast?, rest.head?.bind List.head? with
    | some lo, some hi => (a.dropLast.map fun c => (c, c)) ++ (lo, hi) :: rangesOf true rest
    | none, some _ => ('-', '-') :: rangesOf false rest
    | _, none => (a.map fun c => (c, c)) ++ rangesOf false rest

/-- What the inside of a pair of brackets stands for. -/
def members (inside : Text) : Piece :=
  let negated := inside.head? = some '!'
  let cut :=
    if inside.any (· = '-') then
      dropEmptyRanges (closeChunks (chunks (if negated then 2 else 1) [] inside))
    else [inside]
  let negated := (cut.head?.bind List.head?) = some '!'
  let all := if negated then (cut.head?.getD []).drop 1 :: cut.drop 1 else cut
  if all.all (·.isEmpty) then if negated then .anyChar else .never
  else .oneOf ⟨negated, rangesOf false all⟩

/-- The inside of brackets and what follows them. A closing bracket right at the start is one of
the characters. -/
def bracket? (t : Text) : Option (Text × Text) :=
  let mark := if t.head? = some '!' then 1 else 0
  let first := if (t.drop mark).head? = some ']' then mark + 1 else mark
  let more := (t.drop first).takeWhile (· ≠ ']')
  let size := first + more.length
  if size < t.length then some (t.take size, t.drop (size + 1)) else none

/-- The pieces of a pattern. `skip` counts the characters of brackets that are still to be passed
over. -/
def piecesAux : Nat → Text → List Piece
  | _, [] => []
  | skip + 1, _ :: cs => piecesAux skip cs
  | 0, c :: cs =>
    if c = '*' then .anyText :: piecesAux 0 cs
    else if c = '?' then .anyChar :: piecesAux 0 cs
    else if c = '[' then
      match bracket? cs with
      | some (inside, _) => members inside :: piecesAux (inside.length + 1) cs
      | none => .char c :: piecesAux 0 cs
    else .char c :: piecesAux 0 cs

def pieces (pattern : Text) : List Piece :=
  piecesAux 0 pattern

/-- The endings of a text, the text itself first. -/
def endings : Text → List Text
  | [] => [[]]
  | c :: cs => (c :: cs) :: endings cs

/-- Whether pieces fit a whole text. -/
def fits : List Piece → Text → Bool
  | [], t => t.isEmpty
  | .anyText :: ps, t => (endings t).any (fits ps)
  | .anyChar :: ps, _ :: cs => fits ps cs
  | .char c :: ps, d :: cs => c = d && fits ps cs
  | .oneOf m :: ps, d :: cs => m.has d && fits ps cs
  | .never :: _, _ => false
  | _ :: _, [] => false

def matchesName (pattern name : Text) : Bool :=
  fits (pieces pattern) name

end Glob

/-- Whether a path fits a pattern, name by name from the right. A pattern with a root has to fit the
whole path. -/
def Path.fits (p : Path) (pattern : Text) : Except Failure Bool :=
  let q := Path.ofText pattern
  if q.parts.isEmpty then .error .emptyPathPattern
  else if !q.root.isEmpty then
    .ok (q.root = p.root && q.names.length = p.names.length
      && (p.names.zip q.names).all fun n => Glob.matchesName n.2 n.1)
  else
    .ok (q.names.length ≤ p.parts.length
      && (p.parts.reverse.zip q.names.reverse).all fun n => Glob.matchesName n.2 n.1)

end CodeReview
