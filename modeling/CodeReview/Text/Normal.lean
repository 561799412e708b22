import CodeReview.Text.Basic
import CodeReview.Text.NormalTable

/-!
Compatibility normalisation of identifiers: characters are replaced by what they are made of,
combining marks are put in order, and what can be combined is combined again. Two spellings of one
identifier have the same normal form.
-/

namespace CodeReview.Text

/-- Consecutive code points with the same parts, but for the last part, which goes up with them. -/
def entryRun (first : Nat) (parts : List Nat) (number : Nat) : List (Nat × List Nat) :=
  (List.range number).map fun i =>
    (first + i, parts.dropLast ++ parts.getLast?.toList.map (· + i))

def digitPairs : Text → List Nat
  | a :: b :: rest => digitsValue [a, b] :: digitPairs rest
  | _ => []

def digitTriples : Text → List Nat
  | a :: b :: c :: rest => digitsValue [a, b, c] :: digitTriples rest
  | _ => []

/-- The parts of an entry after one with some parts. -/
def readParts (last : List Nat) (parts : Text) : List Nat :=
  if parts.isEmpty then last
  else if parts = ['/'] then last.modifyHead (· + 32)
  else (split parts [' ']).flatMap fun ds =>
    if ds.length ≤ 3 then [digitsValue ds] else digitPairs ds

/-- The first code point of an entry, and the rest of it. -/
def entryStart (next : Nat) (entry : Text) : Nat × Text :=
  match split entry ['='], split entry ['-'] with
  | [key, value], _ => (digitsValue key, value)
  | _, [gap, value] => (next + digitsValue gap, value)
  | _, _ => (next, entry)

/-- Reads entries from a code point on, after an entry with some parts. -/
def readEntries : Nat → List Nat → List Text → List (Nat × List Nat)
  | _, _, [] => []
  | next, last, entry :: rest =>
    match entryStart next entry with
    | (first, '*' :: ds) =>
      let ns := digitTriples ds
      (ns.zipIdx first).map (fun p => (p.2, [p.1]))
        ++ readEntries (first + ns.length) ns.getLast?.toList rest
    | (first, value) =>
      let (parts, number) := match split value ['+'] with
        | [parts, more] => (parts, digitsValue more + 1)
        | _ => (value, 1)
      let parts := readParts last parts
      entryRun first parts number ++ readEntries (first + number) parts rest

def decompositions : List (Nat × List Nat) :=
  readEntries 0 [] ((lines decompositionRows.toList).flatMap fun row => split row [';'])

/-- The characters of more than one part that are combined again. -/
def combined : List (Nat × List Nat) :=
  decompositions.filter fun r =>
    1 < r.2.length && combinedRanges.any fun p => p.1 ≤ r.1 && r.1 ≤ p.2

/-- The two code points that each of these is combined from: what all parts but the last combine
into, and the last. -/
def compositions : List (Nat × List Nat) :=
  combined.map fun r =>
    let first := (combined.find? (·.2 = r.2.dropLast)).map (·.1)
    (r.1, (first.or r.2.head?).toList ++ r.2.getLast?.toList)

/-- The classes of combining characters, with the characters of each. -/
def combiningClasses : List (Nat × Ranges) :=
  combiningLengths.map fun r => (r.1, .ofLengths 0 (numberRows r.2))

def combiningClass (n : Nat) : Nat :=
  match combiningClasses.find? fun r => r.2.any fun p => p.1 ≤ n && n ≤ p.2 with
  | some r => r.1
  | none => 0

/-- The parts of one code point. A Hangul syllable is two or three letters by arithmetic. -/
def decompose (n : Nat) : List Nat :=
  if n < 128 then [n]
  else if 0xAC00 ≤ n && n ≤ 0xD7A3 then
    let s := n - 0xAC00
    let l := 0x1100 + s / 588
    let v := 0x1161 + s % 588 / 28
    let t := s % 28
    if t = 0 then [l, v] else [l, v, 0x11A7 + t]
  else (decompositions.lookup n).getD [n]

/-- Puts a code point before the marks at the end of `acc` (backwards) that have a greater class. -/
def insertByClass (n : Nat) : List Nat → List Nat
  | [] => [n]
  | m :: ms =>
    if combiningClass n ≠ 0 && combiningClass n < combiningClass m then m :: insertByClass n ms
    else n :: m :: ms

def orderMarks (ns : List Nat) : List Nat :=
  (ns.foldl (fun acc n => insertByClass n acc) []).reverse

/-- The one code point that two code points combine into. -/
def combine? (a b : Nat) : Option Nat :=
  if 0x1100 ≤ a && a ≤ 0x1112 && 0x1161 ≤ b && b ≤ 0x1175 then
    some (0xAC00 + ((a - 0x1100) * 21 + (b - 0x1161)) * 28)
  else if 0xAC00 ≤ a && a ≤ 0xD7A3 && (a - 0xAC00) % 28 = 0 && 0x11A8 ≤ b && b ≤ 0x11C2 then
    some (a + (b - 0x11A7))
  else (compositions.find? fun r => r.2 = [a, b]).map (·.1)

/-- Combines from the left. `start` is the last character that can take marks, `held` the marks
after it that did not combine (backwards), and `last` the class of the mark just held. -/
def composeAux : Option Nat → List Nat → Nat → List Nat → List Nat
  | start, held, _, [] => start.toList ++ held.reverse
  | none, held, _, n :: ns =>
    if combiningClass n = 0 then held.reverse ++ composeAux (some n) [] 0 ns
    else composeAux none (n :: held) 0 ns
  | some s, held, last, n :: ns =>
    let c := combiningClass n
    let blocked := !held.isEmpty && last ≥ c
    match if blocked then none else combine? s n with
    | some m => composeAux (some m) held last ns
    | none =>
      if c = 0 then s :: (held.reverse ++ composeAux (some n) [] 0 ns)
      else composeAux (some s) (n :: held) c ns

def normalForm (t : Text) : Text :=
  if t.all (·.toNat < 128) then t
  else (composeAux none [] 0 (orderMarks (t.flatMap fun c => decompose c.toNat))).map Char.ofNat

end CodeReview.Text
