import CodeReview.Text.Blank
import CodeReview.Text.Caseless
import CodeReview.Text.Word

/-!
Patterns that a text may contain, and how they are looked for.

A pattern is tried at a place with a continuation: the rest of the search, which may refuse what
the pattern takes, so that the pattern tries something else. Captured groups belong to the place,
so going back undoes them.
-/

namespace CodeReview

namespace Pattern

/-- Classes of characters with a name of their own. -/
inductive Kind where
  | digit
  | space
  | word
  deriving DecidableEq, Repr

/-- Whether a character is of a kind, among all characters or only those of ASCII. -/
def Kind.has (ascii : Bool) (c : Char) : Kind → Bool
  | digit => if ascii then c.isDigit else Text.isDigit c
  | space =>
    if ascii then c = ' ' || (9 ≤ c.toNat && c.toNat ≤ 13) else Text.isBlank c
  | word => if ascii then c.isAlphanum || c = '_' else Text.isWord c

inductive Member where
  /-- Code points from one to another. -/
  | range (low high : Nat)
  | kind (k : Kind) (negated : Bool)
  deriving DecidableEq, Repr

/-- A set of characters. -/
structure CharSet where
  negated : Bool
  members : List Member
  ignoreCase : Bool
  ascii : Bool
  deriving DecidableEq, Repr

/-- The one letter that stands for a letter where case does not count. -/
def folded (ascii : Bool) (c : Char) : Char :=
  if ascii then c.toLower else Text.toLowerChar c

/-- Whether some character of a range is `c` but for case. -/
def rangeHasFolded (ascii : Bool) (low high : Nat) (c : Char) : Bool :=
  let l := folded ascii c
  (low ≤ l.toNat && l.toNat ≤ high)
    || (List.range' low (high + 1 - low)).any fun n =>
      let m := folded ascii (Char.ofNat n)
      m = l || (!ascii && (Text.lowerVariants m).any (· = l))

def Member.has (s : CharSet) (c : Char) : Member → Bool
  | range low high =>
    if s.ignoreCase then rangeHasFolded s.ascii low high c
    else low ≤ c.toNat && c.toNat ≤ high
  | kind k negated => negated != k.has s.ascii c

def CharSet.has (s : CharSet) (c : Char) : Bool :=
  s.negated != s.members.any (Member.has s c)

/-- Conditions on a place. -/
inductive Anchor where
  | textStart
  | textEnd
  | lineStart
  | lineEnd
  /-- The end, or a line feed that is the last character. -/
  | lastLineEnd
  | boundary (ascii negated : Bool)
  deriving DecidableEq, Repr

/-- How much a repetition takes first, and whether it gives back. -/
inductive Way where
  | greedy
  | lazy
  | possessive
  deriving DecidableEq, Repr

end Pattern

open Pattern in
inductive Pattern where
  | empty
  | one (s : CharSet)
  | anchor (a : Anchor)
  | both (p q : Pattern)
  | either (p q : Pattern)
  | many (p : Pattern) (least : Nat) (most : Option Nat) (way : Way)
  /-- A group; one with a number is captured. -/
  | group (number : Option Nat) (p : Pattern)
  /-- What a group has captured, once more. -/
  | again (number : Nat) (ignoreCase ascii : Bool)
  /-- What follows here. -/
  | ahead (negated : Bool) (p : Pattern)
  /-- What stands before this place, with the least and the greatest width of it. -/
  | behind (negated : Bool) (least most : Nat) (p : Pattern)
  /-- A group whose first way to match is the only one. -/
  | atomic (p : Pattern)
  /-- One of two patterns, by whether a group has been captured. -/
  | ifGroup (number : Nat) (p q : Pattern)
  deriving DecidableEq, Repr, Inhabited

namespace Pattern

/-- A place in a text. -/
structure Cursor where
  pos : Nat
  /-- What stands before the place, backwards. -/
  before : Text
  rest : Text
  groups : List (Nat × Text)
  deriving DecidableEq, Repr, Inhabited

namespace Cursor

def step (c : Cursor) : Option (Char × Cursor) :=
  match c.rest with
  | [] => none
  | a :: rest => some (a, { c with pos := c.pos + 1, before := a :: c.before, rest := rest })

/-- The place some characters before. -/
def back (c : Cursor) (n : Nat) : Option Cursor :=
  if n ≤ c.pos then
    some { c with
      pos := c.pos - n
      before := c.before.drop n
      rest := (c.before.take n).reverse ++ c.rest }
  else none

def meets (c : Cursor) : Anchor → Bool
  | .textStart => c.before.isEmpty
  | .textEnd => c.rest.isEmpty
  | .lineStart => c.before.isEmpty || c.before.head? = some '\n'
  | .lineEnd => c.rest.isEmpty || c.rest.head? = some '\n'
  | .lastLineEnd => c.rest.isEmpty || c.rest = ['\n']
  | .boundary ascii negated =>
    let isWord (a : Option Char) : Bool := (a.map fun a => Kind.word.has ascii a).getD false
    !(c.before.isEmpty && c.rest.isEmpty)
      && (negated != (isWord c.before.head? != isWord c.rest.head?))

/-- Takes a text, if it is there. -/
def take? (same : Char → Char → Bool) (c : Cursor) : Text → Option Cursor
  | [] => some c
  | t :: ts =>
    match c.step with
    | some (a, next) => if same t a then take? same next ts else none
    | none => none

end Cursor

/-- A way to go on from a place. -/
abbrev Next := Cursor → Option Cursor

abbrev Matcher := Cursor → Next → Option Cursor

/-- A matcher some times in a row. -/
def times (m : Matcher) : Nat → Matcher
  | 0, c, k => k c
  | n + 1, c, k => m c fun d => times m n d k

/-- A matcher as often as wanted, at most `most` times. An empty round is the last one; `last` is
where the round before began. Each other round takes a character, which bounds their number. -/
def rounds (m : Matcher) (lazy : Bool) : Nat → Option Nat → Option Nat → Matcher
  | 0, _, _, c, k => k c
  | fuel + 1, most, last, c, k =>
    let more (_ : Unit) : Option Cursor :=
      if most = some 0 || last = some c.pos then none
      else m c fun d => rounds m lazy fuel (most.map (· - 1)) (some c.pos) d k
    if lazy then
      match k c with
      | some d => some d
      | none => more ()
    else
      match more () with
      | some d => some d
      | none => k c

/-- Rounds that are never taken back. -/
def firstRounds (m : Matcher) : Nat → Option Nat → Option Nat → Cursor → Cursor
  | 0, _, _, c => c
  | fuel + 1, most, last, c =>
    if most = some 0 || last = some c.pos then c
    else match m c some with
      | some d => firstRounds m fuel (most.map (· - 1)) (some c.pos) d
      | none => c

/-- Some rounds in a row, none of which is taken back. -/
def firstTimes (m : Matcher) : Nat → Cursor → Option Cursor
  | 0, c => some c
  | n + 1, c => (m c some).bind (firstTimes m n)

def run : Pattern → Matcher
  | empty, c, k => k c
  | one s, c, k =>
    match c.step with
    | some (a, d) => if s.has a then k d else none
    | none => none
  | anchor a, c, k => if c.meets a then k c else none
  | both p q, c, k => run p c fun d => run q d k
  | either p q, c, k =>
    match run p c k with
    | some d => some d
    | none => run q c k
  | many p least most way, c, k =>
    let fuel := c.rest.length + 2
    let most := most.map (· - least)
    match way with
    | .greedy => times (run p) least c fun d => rounds (run p) false fuel most none d k
    | .lazy => times (run p) least c fun d => rounds (run p) true fuel most none d k
    | .possessive =>
      (firstTimes (run p) least c).bind fun d => k (firstRounds (run p) fuel most none d)
  | group number p, c, k =>
    run p c fun d =>
      match number with
      | none => k d
      | some n =>
        let text := (d.before.take (d.pos - c.pos)).reverse
        k { d with groups := (n, text) :: d.groups.filter fun g => g.1 ≠ n }
  | again number ignoreCase ascii, c, k =>
    match c.groups.lookup number with
    | none => none
    | some text =>
      let same (a b : Char) : Bool :=
        if ignoreCase then folded ascii a = folded ascii b else a = b
      (c.take? same text).bind k
  | ahead negated p, c, k =>
    match run p c some, negated with
    | some d, false => k { c with groups := d.groups }
    | none, true => k c
    | _, _ => none
  | behind negated width _ p, c, k =>
    let found : Option Cursor := (c.back width).bind fun b =>
      run p b fun d => if d.pos = c.pos then some d else none
    match found, negated with
    | some d, false => k { c with groups := d.groups }
    | none, true => k c
    | _, _ => none
  | atomic p, c, k => (run p c some).bind k
  | ifGroup number p q, c, k =>
    if (c.groups.lookup number).isSome then run p c k else run q c k

/-- The first place from which a pattern matches. -/
def searchFrom (p : Pattern) : Text → Nat → Text → Option Cursor
  | before, pos, [] => run p { pos := pos, before := before, rest := [], groups := [] } some
  | before, pos, a :: rest =>
    match run p { pos := pos, before := before, rest := a :: rest, groups := [] } some with
    | some d => some d
    | none => searchFrom p (a :: before) (pos + 1) rest

/-- Whether a pattern matches somewhere in a text. -/
def occursIn (p : Pattern) (t : Text) : Bool :=
  (searchFrom p [] 0 t).isSome

/-- The least and the greatest number of characters that a pattern takes, up to a bound that stands
for any number. `groups` has the widths of captured groups. -/
def width (groups : List (Nat × (Nat × Nat))) : Pattern → Nat × Nat
  | empty | anchor _ | ahead .. | behind .. => (0, 0)
  | one _ => (1, 1)
  | both p q =>
    let a := width groups p
    let b := width groups q
    (min (a.1 + b.1) unbounded, min (a.2 + b.2) unbounded)
  | either p q =>
    let a := width groups p
    let b := width groups q
    (min a.1 b.1, max a.2 b.2)
  | many p least most _ =>
    let a := width groups p
    let high := match most with
      | some n => a.2 * n
      | none => if a.2 = 0 then 0 else unbounded
    (min (a.1 * least) unbounded, min high unbounded)
  | group _ p | atomic p => width groups p
  | again number _ _ => (groups.lookup number).getD (0, 0)
  | ifGroup _ p q =>
    let a := width groups p
    let b := width groups q
    (min a.1 b.1, max a.2 b.2)
where
  unbounded : Nat := Nat.pow 2 64

/-- Whether all that is looked for before a place has a fixed width. -/
def isFixedBehind : Pattern → Bool
  | empty | one _ | anchor _ | again .. => true
  | both p q | either p q | ifGroup _ p q => isFixedBehind p && isFixedBehind q
  | many p _ _ _ | group _ p | ahead _ p | atomic p => isFixedBehind p
  | behind _ least most p => least = most && isFixedBehind p

end Pattern

end CodeReview
