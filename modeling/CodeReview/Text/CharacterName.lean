import CodeReview.Text.Blank
import CodeReview.Text.CharacterNameTable
import CodeReview.Text.Normal

/-!
Characters by name. Names are compared without regard to the case of ASCII letters. The names of
unified ideographs and of Hangul syllables follow from the code point.
-/

namespace CodeReview.Text

/-- A row with a semicolon before each entry that starts with a digit or `=`. A digit after a hyphen
or a colon does not start an entry. -/
def markEntries : Text → Text
  | [] => []
  | [c] => if c.isDigit || c = '=' then [';', c] else [c]
  | c :: d :: rest =>
    if c = '-' || c = ':' then c :: d :: markEntries rest
    else if c.isDigit || c = '=' then ';' :: c :: markEntries (d :: rest)
    else c :: markEntries (d :: rest)

def rowEntries (rows : String) : List Text :=
  (lines rows.toList).flatMap fun row => (split (markEntries row) [';']).filter (!·.isEmpty)

def nameSignWords : List (Char × Text) :=
  nameSigns.toList.zip (rowEntries nameSignRows)

/-- Entries after one, with the characters in the place of a digit at the start. -/
def spellEntries (last : Text) : List Text → List Text
  | [] => []
  | entry :: rest =>
    let kept := entry.takeWhile Char.isDigit
    let word := last.take (digitsValue kept) ++ entry.drop kept.length
    word :: spellEntries word rest

def nameWords : Array Text :=
  (spellEntries [] (rowEntries nameWordRows)).toArray

/-- The number that lower-case letters are to the base of 26. -/
def lettersValue (t : Text) : Nat :=
  t.foldl (fun n c => 26 * n + (c.toNat - 97)) 0

/-- What one character of an entry stands for, with blanks around the words. -/
def spellSign (c : Char) : Text :=
  match nameSignWords.lookup c with
  | some word => ' ' :: word ++ [' ']
  | none => [c]

/-- An entry of the table with blanks around the words that signs and pairs of letters stand for. -/
def spellWords : Text → Text
  | [] => []
  | [c] => spellSign c
  | c :: d :: rest =>
    if c.isLower then
      ' ' :: (nameWords[lettersValue [c, d]]?.getD []) ++ ' ' :: spellWords rest
    else spellSign c ++ spellWords (d :: rest)

/-- The words of an entry after the words of the last one. -/
def entryWords (last : List Text) : Text → List Text
  | [] => []
  | c :: cs =>
    if c.isDigit then last.take (c.toNat - 48) ++ words (spellWords cs)
    else words (spellWords (c :: cs))

def nameCounterparts : List (List Text) :=
  (rowEntries nameCounterpartRows).map words

/-- The words of a name, with the second word of a pair for the first, by the first pair that it has
a word of. -/
def counterpart (name : List Text) : List Text :=
  match nameCounterparts.find? fun pair => pair.head?.any name.contains with
  | some [a, b] => name.map fun w => if w = a then b else w
  | _ => name

/-- Reads the entries from a code point on, after an entry with some words. -/
def readNames : Nat → List Text → List Text → List (Text × Nat)
  | _, _, [] => []
  | next, last, entry :: rest =>
    let (code, name) := match split entry [':'] with
      | [code, name] => (lettersValue code, name)
      | _ => (next, entry)
    if name = ['='] then (join [' '] (counterpart last), code) :: readNames (code + 1) last rest
    else
      let full := entryWords last name
      (join [' '] full, code) :: readNames (code + 1) full rest

/-- The named characters of the table. -/
def characterNames : List (Text × Nat) :=
  readNames 0 [] (rowEntries characterNameRows)

def hangulInitials : List Text :=
  List.map String.toList ["G", "GG", "N", "D", "DD", "R", "M", "B", "BB", "S", "SS", "", "J", "JJ",
    "C", "K", "T", "P", "H"]

def hangulVowels : List Text :=
  List.map String.toList ["A", "AE", "YA", "YAE", "EO", "E", "YEO", "YE", "O", "WA", "WAE", "OE",
    "YO", "U", "WEO", "WE", "WI", "YU", "EU", "YI", "I"]

def hangulFinals : List Text :=
  List.map String.toList ["", "G", "GG", "GS", "N", "NJ", "NH", "D", "L", "LG", "LM", "LB", "LS",
    "LT", "LP", "LH", "M", "B", "BS", "S", "SS", "NG", "J", "C", "K", "T", "P", "H"]

/-- The position of the longest of some texts that a text starts with. -/
def longestStart (parts : List Text) (t : Text) : Option (Nat × Text) :=
  let hits := parts.zipIdx.filter fun p => p.1.isPrefixOf t
  match hits.foldl (fun (best : Option (Text × Nat)) p =>
      match best with
      | none => some p
      | some b => if b.1.length < p.1.length then some p else some b) none with
  | some (p, i) => some (i, t.drop p.length)
  | none => none

def hangulNamed? (t : Text) : Option Nat := do
  let (l, t) ← longestStart hangulInitials t
  let (v, t) ← longestStart hangulVowels t
  let f ← hangulFinals.findIdx? (· = t)
  if (hangulVowels[v]?.getD []).isEmpty then none
  else some (0xAC00 + (l * 21 + v) * 28 + f)

/-- The blocks of unified ideographs. -/
def ideographBlocks : List (Nat × Nat) :=
  [(0x3400, 0x4DBF), (0x4E00, 0x9FFF), (0x20000, 0x2A6DF), (0x2A700, 0x2B738), (0x2B740, 0x2B81D),
    (0x2B820, 0x2CEA1), (0x2CEB0, 0x2EBE0), (0x30000, 0x3134A)]

/-- The value of a run of upper-case hexadecimal digits. -/
def hexValue (ds : Text) : Nat :=
  ds.foldl (fun n c => 16 * n + (if c.isDigit then c.toNat - 48 else c.toNat - 55)) 0

def characterNamed? (name : Text) : Option Char :=
  let name := name.map Char.toUpper
  let cjk : Text := "CJK UNIFIED IDEOGRAPH-"
  let hangul : Text := "HANGUL SYLLABLE "
  if cjk.isPrefixOf name then
    let ds := name.drop cjk.length
    let n := hexValue ds
    let wellFormed := (ds.length = 4 || ds.length = 5)
      && ds.all (fun c => c.isDigit || ('A' ≤ c && c ≤ 'F'))
    if wellFormed && ideographBlocks.any (fun r => r.1 ≤ n && n ≤ r.2) then some (Char.ofNat n)
    else none
  else if hangul.isPrefixOf name then (hangulNamed? (name.drop hangul.length)).map Char.ofNat
  else (characterNames.lookup name).map Char.ofNat

end CodeReview.Text
