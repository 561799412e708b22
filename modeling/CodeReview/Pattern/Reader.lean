import CodeReview.Pattern.Basic
import CodeReview.Text.CharacterName
import CodeReview.Text.Identifier
import CodeReview.Text.Quoted
import CodeReview.Text.Word

/-!
Patterns as they are written.

A pattern is cut into symbols first, where a backslash and the character after it are one symbol.
The reader always looks one symbol ahead, so a backslash that ends the pattern is found as soon as
the symbol before it has been passed.
-/

namespace CodeReview.Pattern

/-- Why a text is no pattern. -/
inductive Problem where
  | danglingBackslash
  | incompleteEscape (escape : Text)
  | badEscape (escape : Text)
  | octalTooLarge (escape : Text)
  | missingBrace
  | undefinedCharacter (name : Text)
  | missing (what : Text)
  | unterminatedName (close : Text)
  | badGroupName (name : Text)
  | unknownGroupName (name : Text)
  | badGroupNumber
  | invalidReference (number : Nat)
  | openGroup
  | sameLookbehind
  | redefinedGroup (name : Text) (number old : Nat)
  | unterminatedSet
  | badRange (low high : Text)
  | nothingToRepeat
  | multipleRepeat
  | minOverMax
  | unexpectedEnd
  | unknownExtension (what : Text)
  | unterminatedComment
  | unterminatedGroup
  | tooManyBranches
  | misplacedFlags
  | unknownFlag
  | missingFlag
  | missingFlagEnd
  | missingColon
  | localeFlag
  | incompatibleTypes
  | globalOn
  | typeOff
  | globalOff
  | onAndOff
  | unbalanced
  | variableLookbehind
  deriving DecidableEq, Repr, Inhabited

def Problem.message : Problem → Text
  | danglingBackslash => "bad escape (end of pattern)"
  | incompleteEscape escape => "incomplete escape " ++ escape
  | badEscape escape => "bad escape " ++ escape
  | octalTooLarge escape => "octal escape value " ++ escape ++ " outside of range 0-0o377"
  | missingBrace => "missing \x7b"
  | undefinedCharacter name => "undefined character name " ++ Text.quoted name
  | missing what => "missing " ++ what
  | unterminatedName close => "missing " ++ close ++ ", unterminated name"
  | badGroupName name => "bad character in group name " ++ Text.quoted name
  | unknownGroupName name => "unknown group name " ++ Text.quoted name
  | badGroupNumber => "bad group number"
  | invalidReference number => "invalid group reference " ++ Text.ofNat number
  | openGroup => "cannot refer to an open group"
  | sameLookbehind => "cannot refer to group defined in the same lookbehind subpattern"
  | redefinedGroup name number old =>
    "redefinition of group name " ++ Text.quoted name ++ " as group " ++ Text.ofNat number
      ++ "; was group " ++ Text.ofNat old
  | unterminatedSet => "unterminated character set"
  | badRange low high => "bad character range " ++ low ++ "-" ++ high
  | nothingToRepeat => "nothing to repeat"
  | multipleRepeat => "multiple repeat"
  | minOverMax => "min repeat greater than max repeat"
  | unexpectedEnd => "unexpected end of pattern"
  | unknownExtension what => "unknown extension " ++ what
  | unterminatedComment => "missing ), unterminated comment"
  | unterminatedGroup => "missing ), unterminated subpattern"
  | tooManyBranches => "conditional backref with more than two branches"
  | misplacedFlags => "global flags not at the start of the expression"
  | unknownFlag => "unknown flag"
  | missingFlag => "missing flag"
  | missingFlagEnd => "missing -, : or )"
  | missingColon => "missing :"
  | localeFlag => "bad inline flags: cannot use 'L' flag with a str pattern"
  | incompatibleTypes => "bad inline flags: flags 'a', 'u' and 'L' are incompatible"
  | globalOn => "bad inline flags: cannot turn on global flag"
  | typeOff => "bad inline flags: cannot turn off flags 'a', 'u' and 'L'"
  | globalOff => "bad inline flags: cannot turn off global flag"
  | onAndOff => "bad inline flags: flag turned on and off"
  | unbalanced => "unbalanced parenthesis"
  | variableLookbehind => "look-behind requires fixed-width pattern"

/-- What reading a pattern may end with. -/
inductive Fault where
  /-- A problem, at a place if it has one. -/
  | problem (p : Problem) (pos : Option Nat)
  /-- A repetition with a number that is too large. -/
  | tooManyTimes
  /-- Flags for the whole pattern that exclude each other. -/
  | incompatibleFlags
  deriving DecidableEq, Repr, Inhabited

/-- The fault in words; the line is given where a pattern has several. -/
def Fault.message (t : Text) : Fault → Text
  | tooManyTimes => "the repetition number is too large"
  | incompatibleFlags => "ASCII and UNICODE flags are incompatible"
  | problem p none => p.message
  | problem p (some pos) =>
    let before := t.take pos
    let line := before.countP (· = '\n') + 1
    let column := (before.reverse.takeWhile (· ≠ '\n')).length + 1
    p.message ++ " at position " ++ Text.ofNat pos
      ++ (if t.any (· = '\n') then
        " (line ".toList ++ Text.ofNat line ++ ", column " ++ Text.ofNat column ++ ")"
        else [])

inductive Symbol where
  | char (c : Char)
  | escape (c : Char)
  deriving DecidableEq, Repr

def Symbol.text : Symbol → Text
  | char c => [c]
  | escape c => ['\\', c]

/-- The symbols of a pattern, and whether a lone backslash is left at the end. -/
def symbols : Text → List Symbol × Bool
  | [] => ([], false)
  | ['\\'] => ([], true)
  | '\\' :: c :: cs => let r := symbols cs; (.escape c :: r.1, r.2)
  | c :: cs => let r := symbols cs; (.char c :: r.1, r.2)

structure Flags where
  ignoreCase : Bool := false
  multiline : Bool := false
  dotAll : Bool := false
  verbose : Bool := false
  ascii : Bool := false
  unicode : Bool := false
  template : Bool := false
  deriving DecidableEq, Repr, Inhabited

/-- What has been read so far matters in many ways. -/
structure State where
  rest : List Symbol
  pos : Nat
  /-- A lone backslash follows the last symbol. -/
  dangling : Bool
  flags : Flags := {}
  /-- The number of the next group. -/
  nextGroup : Nat := 1
  names : List (Text × Nat) := []
  /-- The widths of the groups that are closed. -/
  widths : List (Nat × (Nat × Nat)) := []
  /-- Inside of a look at what stands before, the number of its first group. -/
  lookbehind : Option Nat := none
  /-- Group numbers that conditions ask for, with their places. -/
  asked : List (Nat × Nat) := []

abbrev Read := StateT State (Except Fault)

/-- Gives up at a place some characters before the next symbol. -/
def refuse {α : Type} (p : Problem) (offset : Nat := 0) : Read α := do
  throw (.problem p (some ((← get).pos - offset)))

def refuseAt {α : Type} (p : Problem) (pos : Nat) : Read α :=
  throw (.problem p (some pos))

def peek : Read (Option Symbol) := do
  return (← get).rest.head?

/-- Passes over the next symbol. -/
def advance : Read Unit := do
  let s ← get
  match s.rest with
  | [] => pure ()
  | a :: rest =>
    let pos := s.pos + a.text.length
    if rest.isEmpty && s.dangling then refuseAt .danglingBackslash pos
    set { s with rest := rest, pos := pos }

def next : Read (Option Symbol) := do
  let a ← peek
  advance
  return a

/-- Passes over a character, if it is next. -/
def accept (c : Char) : Read Bool := do
  if (← peek) = some (.char c) then
    advance
    return true
  else return false

/-- At most some characters of a class. -/
def takeWhile (p : Char → Bool) : Nat → Read Text
  | 0 => pure []
  | n + 1 => do
    match ← peek with
    | some (.char c) =>
      if p c then
        advance
        return c :: (← takeWhile p n)
      else return []
    | _ => return []

def isOctal (c : Char) : Bool :=
  '0' ≤ c && c ≤ '7'

def isHex (c : Char) : Bool :=
  c.isDigit || ('a' ≤ c && c ≤ 'f') || ('A' ≤ c && c ≤ 'F')

def digitValue (c : Char) : Nat :=
  if c.isDigit then c.toNat - 48 else (c.toLower.toNat - 97) + 10

def inBase (base : Nat) (ds : Text) : Nat :=
  ds.foldl (fun n d => n * base + digitValue d) 0

/-- A name up to a closing character. `fuel` bounds its length. -/
def nameUntil (close : Char) (what : Text) : Nat → Text → Read Text
  | 0, _ => refuse .unexpectedEnd
  | fuel + 1, acc => do
    match ← next with
    | none =>
      if acc.isEmpty then refuse (.missing what)
      else refuse (.unterminatedName [close]) acc.length
    | some a =>
      if a = .char close then
        if acc.isEmpty then refuse (.missing what) 1 else return acc
      else nameUntil close what fuel (acc ++ a.text)

def untilClose (close : Char) (what : Text) : Read Text := do
  nameUntil close what ((← get).rest.length + 1) []

/-- What an escape stands for. -/
inductive Escaped where
  | code (n : Nat)
  | member (m : Member)
  | anchor (a : Anchor)
  | reference (n : Nat)

def controlEscape? (c : Char) : Option Nat :=
  match c with
  | 'a' => some 7
  | 'b' => some 8
  | 'f' => some 12
  | 'n' => some 10
  | 'r' => some 13
  | 't' => some 9
  | 'v' => some 11
  | '\\' => some 92
  | _ => none

def kindEscape? (c : Char) : Option Member :=
  match c with
  | 'd' => some (.kind .digit false)
  | 'D' => some (.kind .digit true)
  | 's' => some (.kind .space false)
  | 'S' => some (.kind .space true)
  | 'w' => some (.kind .word false)
  | 'W' => some (.kind .word true)
  | _ => none

def anchorEscape? (ascii : Bool) (c : Char) : Option Anchor :=
  match c with
  | 'A' => some .textStart
  | 'Z' => some .textEnd
  | 'b' => some (.boundary ascii false)
  | 'B' => some (.boundary ascii true)
  | _ => none

/-- An escape with a fixed number of hexadecimal digits. -/
def hexEscape (c : Char) (count : Nat) : Read Escaped := do
  let ds ← takeWhile isHex count
  let escape := '\\' :: c :: ds
  if ds.length ≠ count then refuse (.incompleteEscape escape) escape.length
  else if 0x10FFFF < inBase 16 ds then refuse (.badEscape escape) escape.length
  else return .code (inBase 16 ds)

def nameEscape : Read Escaped := do
  if ← accept '\x7b' then
    let name ← untilClose '\x7d' "character name"
    match Text.characterNamed? name with
    | some c => return .code c.toNat
    | none => refuse (.undefinedCharacter name) (name.length + 4)
  else refuse .missingBrace

/-- The escapes that mean the same inside of a set and outside. -/
def commonEscape? (c : Char) : Option (Read Escaped) :=
  match c with
  | 'x' => some (hexEscape 'x' 2)
  | 'u' => some (hexEscape 'u' 4)
  | 'U' => some (hexEscape 'U' 8)
  | 'N' => some nameEscape
  | _ => none

/-- An escape that stands for its own character, unless that is a letter or a digit. -/
def plainEscape (c : Char) : Read Escaped :=
  if c.isAlphanum then refuse (.badEscape ['\\', c]) 2 else return .code c.toNat

/-- An escape inside of a set. -/
def setEscape (c : Char) : Read Escaped := do
  match controlEscape? c, kindEscape? c, commonEscape? c with
  | some n, _, _ => return .code n
  | _, some m, _ => return .member m
  | _, _, some r => r
  | none, none, none =>
    if isOctal c then
      let ds := c :: (← takeWhile isOctal 2)
      let escape := '\\' :: ds
      if 0o377 < inBase 8 ds then refuse (.octalTooLarge escape) escape.length
      else return .code (inBase 8 ds)
    else plainEscape c

/-- A group that can be referred to from here. -/
def checkLookbehind (number : Nat) : Read Unit := do
  let s ← get
  match s.lookbehind with
  | none => pure ()
  | some first =>
    if (s.widths.lookup number).isNone then refuse .openGroup
    else if first ≤ number then refuse .sameLookbehind

/-- An escape that starts with a digit other than zero: an octal number of three digits, or a group
by its number. -/
def referenceEscape (c : Char) : Read Escaped := do
  let second ← takeWhile Char.isDigit 1
  let third ←
    if isOctal c && !second.isEmpty && second.all isOctal then takeWhile isOctal 1 else pure []
  let ds := c :: second ++ third
  let escape := '\\' :: ds
  if !third.isEmpty then
    if 0o377 < inBase 8 ds then refuse (.octalTooLarge escape) escape.length
    else return .code (inBase 8 ds)
  else
    let number := inBase 10 ds
    let s ← get
    if number < s.nextGroup then
      if (s.widths.lookup number).isNone then refuse .openGroup escape.length
      checkLookbehind number
      return .reference number
    else refuse (.invalidReference number) (escape.length - 1)

/-- An escape outside of sets. -/
def outerEscape (c : Char) : Read Escaped := do
  match anchorEscape? (← get).flags.ascii c, kindEscape? c with
  | some a, _ => return .anchor a
  | none, some m => return .member m
  | none, none =>
    match controlEscape? c, commonEscape? c with
    | some n, _ => return .code n
    | none, some r => r
    | none, none =>
      if c = '0' then return .code (inBase 8 (← takeWhile isOctal 2))
      else if c.isDigit then referenceEscape c
      else plainEscape c

/-- A set with the flags that hold here. -/
def setOf (negated : Bool) (members : List Member) : Read Pattern := do
  let f := (← get).flags
  return .one
    { negated := negated, members := members, ignoreCase := f.ignoreCase, ascii := f.ascii }

def literal (n : Nat) : Read Pattern :=
  setOf false [.range n n]

/-- One end of a range, or a member of its own. -/
def setItem (a : Symbol) : Read Escaped :=
  match a with
  | .escape c => setEscape c
  | .char c => return .code c.toNat

def memberOf : Escaped → Member
  | .code n => .range n n
  | .member m => m
  | .anchor _ | .reference _ => .range 0 0

/-- The members of a set up to its closing bracket. `start` is the place of the opening one. -/
def setMembers (start : Nat) : Nat → List Member → Read (List Member)
  | 0, _ => refuseAt .unterminatedSet start
  | fuel + 1, acc => do
    match ← next with
    | none => refuseAt .unterminatedSet start
    | some a =>
      if a = .char ']' && !acc.isEmpty then return acc.reverse
      else
        let low ← setItem a
        if ← accept '-' then
          match ← next with
          | none => refuseAt .unterminatedSet start
          | some b =>
            if b = .char ']' then return (.range 45 45 :: memberOf low :: acc).reverse
            else
              let high ← setItem b
              let width := a.text.length + 1 + b.text.length
              match low, high with
              | .code l, .code h =>
                if h < l then refuse (.badRange a.text b.text) width
                else setMembers start fuel (.range l h :: acc)
              | _, _ => refuse (.badRange a.text b.text) width
        else setMembers start fuel (memberOf low :: acc)

def readSet : Read Pattern := do
  let start := (← get).pos - 1
  let negated ← accept '^'
  setOf negated (← setMembers start ((← get).rest.length + 1) [])

/-- The largest number of a repetition. -/
def repeatLimit : Nat :=
  4294967295

/-- How often something is repeated; none where a brace is only a brace. -/
def readCount (c : Char) : Read (Option (Nat × Option Nat)) := do
  match c with
  | '?' => return some (0, some 1)
  | '*' => return some (0, none)
  | '+' => return some (1, none)
  | _ =>
    let here ← get
    if here.rest.head? = some (.char '\x7d') then return none
    let size := here.rest.length
    let low ← takeWhile Char.isDigit size
    let high ← if ← accept ',' then takeWhile Char.isDigit size else pure low
    if ← accept '\x7d' then
      let least := inBase 10 low
      let most := inBase 10 high
      if !low.isEmpty && repeatLimit ≤ least then throw .tooManyTimes
      if !high.isEmpty && repeatLimit ≤ most then throw .tooManyTimes
      if !high.isEmpty && most < least then refuseAt .minOverMax here.pos
      return some (least, if high.isEmpty then none else some most)
    else
      set here
      return none

/-- Repeats the last of the items, which are in reverse order. `start` is the place of the sign. -/
def repeatLast (start : Nat) (count : Nat × Option Nat) (items : List Pattern) :
    Read (List Pattern) := do
  match items with
  | [] | .anchor _ :: _ => refuseAt .nothingToRepeat start
  | .many .. :: _ => refuseAt .multipleRepeat start
  | p :: rest =>
    let way ← if ← accept '?' then pure Way.lazy
      else if ← accept '+' then pure Way.possessive
      else pure Way.greedy
    return .many p count.1 count.2 way :: rest

/-- Flags by their letters; what is not a flag has none. -/
def Flags.turn (f : Flags) (on : Bool) (c : Char) : Option Flags :=
  match c with
  | 'i' => some { f with ignoreCase := on }
  | 'm' => some { f with multiline := on }
  | 's' => some { f with dotAll := on }
  | 'x' => some { f with verbose := on }
  | 'a' => some { f with ascii := on }
  | 'u' => some { f with unicode := on }
  | 't' => some { f with template := on }
  | 'L' => some f
  | _ => none

def isFlag (c : Char) : Bool :=
  (Flags.turn {} true c).isSome

/-- Letters of flags that are turned on, up to the character that ends them. -/
def flagsOn : Nat → Flags → Char → Read (Flags × Char)
  | 0, _, _ => refuse .missingFlagEnd
  | fuel + 1, f, c => do
    if c = 'L' then refuse .localeFlag
    let f := (f.turn true c).getD f
    if f.ascii && f.unicode then refuse .incompatibleTypes
    match ← next with
    | none => refuse .missingFlagEnd
    | some (.char d) =>
      if d = ')' || d = '-' || d = ':' then return (f, d)
      else if isFlag d then flagsOn fuel f d
      else refuse (if Text.isLetter d then .unknownFlag else .missingFlagEnd) 1
    | some (.escape _) => refuse .missingFlagEnd 2

/-- Letters of flags that are turned off, up to a colon. -/
def flagsOff : Nat → Flags → Char → Read Flags
  | 0, _, _ => refuse .missingColon
  | fuel + 1, f, c => do
    if c = 'a' || c = 'u' || c = 'L' then refuse .typeOff
    let f := (f.turn true c).getD f
    match ← next with
    | none => refuse .missingColon
    | some (.char d) =>
      if d = ':' then return f
      else if isFlag d then flagsOff fuel f d
      else refuse (if Text.isLetter d then .unknownFlag else .missingColon) 1
    | some (.escape _) => refuse .missingColon 2

/-- Flags in two sets at once. -/
def Flags.meet (f g : Flags) : Bool :=
  (f.ignoreCase && g.ignoreCase) || (f.multiline && g.multiline) || (f.dotAll && g.dotAll)
    || (f.verbose && g.verbose)

/-- The flags after some are turned on and off. A type of characters replaces the one before. -/
def Flags.change (f on off : Flags) : Flags :=
  let typed := on.ascii || on.unicode
  { ignoreCase := (f.ignoreCase || on.ignoreCase) && !off.ignoreCase
    multiline := (f.multiline || on.multiline) && !off.multiline
    dotAll := (f.dotAll || on.dotAll) && !off.dotAll
    verbose := (f.verbose || on.verbose) && !off.verbose
    ascii := if typed then on.ascii else f.ascii
    unicode := if typed then on.unicode else f.unicode
    template := f.template || on.template }

/-- What stands between the question mark of a group and its end or its colon: flags for the whole
pattern (none), or those that change in the group. -/
def readFlags (c : Char) : Read (Option (Flags × Flags)) := do
  let fuel := (← get).rest.length + 1
  let (on, stop) ← if c = '-' then pure ({}, '-') else flagsOn fuel {} c
  if stop = ')' then
    modify fun s => { s with flags :=
      { (s.flags.change on {}) with
        ascii := s.flags.ascii || on.ascii
        unicode := s.flags.unicode || on.unicode } }
    return none
  if on.template then refuse .globalOn 1
  let off ← if stop = '-' then do
      match ← next with
      | none => refuse .missingFlag
      | some (.char d) =>
        if isFlag d then flagsOff fuel {} d
        else refuse (if Text.isLetter d then .unknownFlag else .missingFlag) 1
      | some (.escape _) => refuse .missingFlag 2
    else pure {}
  if off.template then refuse .globalOff 1
  if on.meet off then refuse .onAndOff 1
  return some (on, off)

def isIdentifier (t : Text) : Bool :=
  match t with
  | [] => false
  | c :: cs => Text.isIdentifierStart c && cs.all Text.isIdentifierContinue

def groupName (close : Char) : Read Text := do
  let name ← untilClose close "group name"
  if isIdentifier name then return name else refuse (.badGroupName name) (name.length + 1)

/-- A whole number with blanks around it, a sign, and single underscores between digits. -/
def wholeNumber? (t : Text) : Option Nat :=
  let t := Text.strip t
  let t := if t.head? = some '+' then t.drop 1 else t
  let groups := Text.split t ['_']
  if groups.all fun g => !g.isEmpty && g.all Char.isDigit then some (inBase 10 groups.flatten)
  else none

/-- The number of the group that a condition asks for. -/
def conditionGroup : Read Nat := do
  let name ← untilClose ')' "group name"
  let s ← get
  let offset := name.length + 1
  if isIdentifier name then
    match s.names.lookup name with
    | some n => return n
    | none => refuse (.unknownGroupName name) offset
  else
    match wholeNumber? name with
    | none => refuse (.badGroupName name) offset
    | some 0 => refuse .badGroupNumber offset
    | some n =>
      if (s.asked.lookup n).isNone then
        set { s with asked := s.asked ++ [(n, s.pos - offset)] }
      return n

/-- A group that has been captured, by its name. -/
def namedReference : Read Pattern := do
  let name ← groupName ')'
  let s ← get
  match s.names.lookup name with
  | none => refuse (.unknownGroupName name) (name.length + 1)
  | some n =>
    if (s.widths.lookup n).isNone then refuse .openGroup (name.length + 1)
    checkLookbehind n
    return .again n s.flags.ignoreCase s.flags.ascii

/-- The number of a group that opens here. -/
def openGroup (name : Option Text) : Read Nat := do
  let s ← get
  let number := s.nextGroup
  set { s with nextGroup := number + 1 }
  match name with
  | none => pure ()
  | some name =>
    match s.names.lookup name with
    | some old => refuse (.redefinedGroup name number old) (name.length + 1)
    | none => modify fun s => { s with names := s.names ++ [(name, number)] }
  return number

def isSpecial (c : Char) : Bool :=
  c = '.' || c = '\\' || c = '[' || c = '\x7b' || c = '(' || c = ')' || c = '*' || c = '+'
    || c = '?' || c = '^' || c = '$' || c = '|'

/-- Passes over a comment that ends with its line. -/
def skipLine : Nat → Read Unit
  | 0 => pure ()
  | fuel + 1 => do
    match ← next with
    | none => pure ()
    | some a => if a = .char '\n' then pure () else skipLine fuel

/-- Passes over a comment that ends with a parenthesis. -/
def skipComment (start : Nat) : Nat → Read Unit
  | 0 => refuseAt .unterminatedComment start
  | fuel + 1 => do
    match ← peek with
    | none => refuseAt .unterminatedComment start
    | some a =>
      advance
      if a = .char ')' then pure () else skipComment start fuel

/-- The items in reverse order as one pattern. -/
def sequenceOf (items : List Pattern) : Pattern :=
  items.foldl (fun p q => match p with
    | .empty => q
    | p => .both q p) .empty

def choiceOf : List Pattern → Pattern
  | [] => .empty
  | [p] => p
  | p :: ps => .either p (choiceOf ps)

/-- What a group adds: an item, or nothing (a comment, flags). -/
abbrev Item := Option Pattern

mutual

/-- Alternatives, up to the end or a closing parenthesis. The first argument bounds the depth and
the number of items. -/
def readChoice : Nat → Bool → Read Pattern
  | 0, _ => refuse .unexpectedEnd
  | fuel + 1, outermost => do
    let first ← readItems fuel outermost []
    let rest ← readMore fuel
    return choiceOf (first :: rest)

def readMore : Nat → Read (List Pattern)
  | 0 => refuse .unexpectedEnd
  | fuel + 1 => do
    if ← accept '|' then
      let p ← readItems fuel false []
      return p :: (← readMore fuel)
    else return []

/-- Items in a row; those before are in reverse order. Flags for the whole pattern may stand only
at its very start. -/
def readItems : Nat → Bool → List Pattern → Read Pattern
  | 0, _, _ => refuse .unexpectedEnd
  | fuel + 1, first, items => do
    let flags := (← get).flags
    match ← peek with
    | none => return sequenceOf items
    | some (.escape c) =>
      advance
      let p ← match ← outerEscape c with
        | .code n => literal n
        | .member m => setOf false [m]
        | .anchor a => pure (.anchor a)
        | .reference n => pure (.again n flags.ignoreCase flags.ascii)
      readItems fuel first (p :: items)
    | some (.char c) =>
      if c = '|' || c = ')' then return sequenceOf items
      advance
      if flags.verbose && (c = ' ' || (9 ≤ c.toNat && c.toNat ≤ 13)) then
        readItems fuel first items
      else if flags.verbose && c = '#' then
        skipLine ((← get).rest.length + 1)
        readItems fuel first items
      else if !isSpecial c then readItems fuel first ((← literal c.toNat) :: items)
      else if c = '[' then readItems fuel first ((← readSet) :: items)
      else if c = '.' then
        let p := Pattern.one
          { negated := true, members := if flags.dotAll then [] else [.range 10 10]
            ignoreCase := false, ascii := false }
        readItems fuel first (p :: items)
      else if c = '^' then
        readItems fuel first (.anchor (if flags.multiline then .lineStart else .textStart) :: items)
      else if c = '$' then
        readItems fuel first (.anchor (if flags.multiline then .lineEnd else .lastLineEnd) :: items)
      else if c = '(' then
        match ← readGroup fuel (first && items.isEmpty) with
        | some p => readItems fuel first (p :: items)
        | none => readItems fuel first items
      else
        let start := (← get).pos - 1
        match ← readCount c with
        | none => readItems fuel first ((← literal c.toNat) :: items)
        | some count => readItems fuel first (← repeatLast start count items)

/-- A group after its opening parenthesis. -/
def readGroup : Nat → Bool → Read Item
  | 0, _ => refuse .unexpectedEnd
  | fuel + 1, first => do
    let start := (← get).pos - 1
    if !(← accept '?') then readBody fuel start true none {} {} false
    else match ← next with
      | none => refuse .unexpectedEnd
      | some (.escape c) => refuse (.unknownExtension ['?', '\\', c]) 3
      | some (.char c) =>
        if c = 'P' then
          if ← accept '<' then readBody fuel start true (some (← groupName '>')) {} {} false
          else if ← accept '=' then return some (← namedReference)
          else match ← next with
            | none => refuse .unexpectedEnd
            | some a => refuse (.unknownExtension ("?P" ++ a.text)) (a.text.length + 2)
        else if c = ':' then readBody fuel start false none {} {} false
        else if c = '#' then
          skipComment start ((← get).rest.length + 1)
          return none
        else if c = '=' || c = '!' then
          let p ← readChoice fuel false
          if ← accept ')' then return some (.ahead (c = '!') p)
          else refuseAt .unterminatedGroup start
        else if c = '<' then
          match ← next with
          | none => refuse .unexpectedEnd
          | some a =>
            if a = .char '=' || a = .char '!' then
              let outer := (← get).lookbehind
              modify fun s => { s with lookbehind := some (outer.getD s.nextGroup) }
              let p ← readChoice fuel false
              modify fun s => { s with lookbehind := outer }
              if ← accept ')' then
                let w := p.width (← get).widths
                return some (.behind (a = .char '!') w.1 w.2 p)
              else refuseAt .unterminatedGroup start
            else refuse (.unknownExtension ("?<" ++ a.text)) (a.text.length + 2)
        else if c = '(' then
          let n ← conditionGroup
          checkLookbehind n
          let yes ← readItems fuel false []
          let no ← if ← accept '|' then do
              let no ← readItems fuel false []
              if (← peek) = some (.char '|') then refuse .tooManyBranches
              pure no
            else pure .empty
          if ← accept ')' then return some (.ifGroup n yes no)
          else refuseAt .unterminatedGroup start
        else if c = '>' then readBody fuel start false none {} {} true
        else if isFlag c || c = '-' then
          match ← readFlags c with
          | none =>
            if first then return none else refuseAt .misplacedFlags start
          | some (on, off) => readBody fuel start false none on off false
        else refuse (.unknownExtension ['?', c]) 2

/-- The inside of a group. -/
def readBody : Nat → Nat → Bool → Option Text → Flags → Flags → Bool → Read Item
  | 0, _, _, _, _, _, _ => refuse .unexpectedEnd
  | fuel + 1, start, capture, name, on, off, whole => do
    let number ← if capture then pure (some (← openGroup name)) else pure none
    let outer := (← get).flags
    modify fun s => { s with flags := outer.change on off }
    let p ← readChoice fuel false
    modify fun s => { s with flags := outer }
    if ← accept ')' then
      match number with
      | some n => modify fun s => { s with widths := (n, p.width s.widths) :: s.widths }
      | none => pure ()
      return some (if whole then .atomic p else .group number p)
    else refuseAt .unterminatedGroup start

end

/-- A whole pattern. -/
def readWhole (size : Nat) : Read Pattern := do
  let p ← readChoice (4 * size + 8) true
  let s ← get
  if s.flags.ascii && s.flags.unicode then throw .incompatibleFlags
  if !s.rest.isEmpty then refuse .unbalanced
  match s.asked.find? fun a => s.nextGroup ≤ a.1 with
  | some a => refuseAt (.invalidReference a.1) a.2
  | none => pure ()
  if p.isFixedBehind then return p else throw (.problem .variableLookbehind none)

/-- Reads a pattern. -/
def read (t : Text) : Except Fault Pattern :=
  let (rest, dangling) := symbols t
  if rest.isEmpty && dangling then .error (.problem .danglingBackslash (some 0))
  else (readWhole t.length).run' { rest := rest, pos := 0, dangling := dangling }

end CodeReview.Pattern
