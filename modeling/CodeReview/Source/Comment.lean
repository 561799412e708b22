import CodeReview.Text.Blank

/-!
Comments of a source text.

Comments are found by a simpler reading of the text than parsing is, which works line by line and
goes on after most mistakes. It gives up on a text that ends inside a bracket, a string or a
continued line, and on a line that returns to an indentation that was never entered.
-/

namespace CodeReview.Source

/-- A comment: its line, the characters before it in that line, and its text without the sign. -/
structure Comment where
  line : Nat
  column : Nat
  text : Text
  deriving DecidableEq, Repr

namespace Comment

/-- A string that goes on in the next line. A string in single quotes has to say so at the end of
each line. -/
structure OpenString where
  quote : Char
  triple : Bool

structure Scan where
  brackets : Int
  continued : Bool
  string : Option OpenString
  /-- The last string that did not end in its line was one in single quotes. -/
  mustContinue : Bool
  indents : List Nat
  /-- What was found, backwards. -/
  found : List Comment

/-- Before the first line. -/
def Scan.start : Scan :=
  { brackets := 0, continued := false, string := none, mustContinue := false, indents := [],
    found := [] }

def ofText (line column : Nat) (sign : Text) : Comment :=
  { line := line, column := column, text := Text.strip (sign.drop 1) }

/-- What is left of a line after the end of a string that started before. -/
def afterString (s : OpenString) : Text → Option Text
  | [] => none
  | '\\' :: c :: rest => if c = '\n' then none else afterString s rest
  | c :: rest =>
    if c = s.quote then
      if !s.triple then some rest
      else match rest with
        | a :: b :: more => if a = c && b = c then some more else afterString s (a :: b :: more)
        | _ => none
    else if c = '\\' then none
    else afterString s rest

/-- How a string in single quotes goes on in its line: it ends before a rest, it is continued, or
it is no string. -/
inductive Tail where
  | closed (rest : Text)
  | continued
  | broken

def stringTail (quote : Char) : Text → Tail
  | [] => .broken
  | ['\\', '\n'] => .continued
  | ['\\', '\x0d', '\n'] => .continued
  | '\\' :: c :: rest => if c = '\n' then .broken else stringTail quote rest
  | c :: rest =>
    if c = quote then .closed rest
    else if c = '\n' || c = '\\' then .broken
    else stringTail quote rest

/-- Reads the tokens of a line from some column. The count bounds the characters left. -/
def scanTokens (line : Nat) : Nat → Nat → Text → Scan → Scan
  | 0, _, _, s => s
  | _, _, [], s => s
  | n + 1, col, c :: rest, s =>
    let skip (s : Scan) : Scan := scanTokens line n (col + 1) rest s
    if c = '#' then
      let sign := (c :: rest).takeWhile fun c => c ≠ '\x0d' && c ≠ '\n'
      scanTokens line n (col + sign.length) ((c :: rest).drop sign.length)
        { s with found := ofText line col sign :: s.found }
    else if c = '\\' && (rest = ['\n'] || rest = ['\x0d', '\n']) then { s with continued := true }
    else if c = '"' || c = '\'' then
      if [c, c].isPrefixOf rest then
        match afterString { quote := c, triple := true } (rest.drop 2) with
        | some after => scanTokens line n (col + 1 + (rest.length - after.length)) after s
        | none => { s with string := some { quote := c, triple := true } }
      else match stringTail c rest with
        | .closed after => scanTokens line n (col + 1 + (rest.length - after.length)) after s
        | .continued =>
          { s with string := some { quote := c, triple := false }, mustContinue := true }
        | .broken => skip s
    else if c = '(' || c = '[' || c = '\x7b' then skip { s with brackets := s.brackets + 1 }
    else if c = ')' || c = ']' || c = '\x7d' then skip { s with brackets := s.brackets - 1 }
    else skip s

/-- The width of the indentation of a line, and the number of characters it takes. -/
def indentation : Nat → Nat → Text → Nat × Nat
  | width, count, ' ' :: rest => indentation (width + 1) (count + 1) rest
  | width, count, '\t' :: rest => indentation ((width / 8 + 1) * 8) (count + 1) rest
  | _, count, '\x0c' :: rest => indentation 0 (count + 1) rest
  | width, count, _ => (width, count)

/-- Reads a line with its line end. Nothing is the result where reading has to be given up. -/
def scanLine (number : Nat) (text : Text) (s : Scan) : Option Scan :=
  match s.string with
  | some opened =>
    match afterString opened text with
    | some rest =>
      let col := text.length - rest.length
      some (scanTokens number (rest.length + 1) col rest
        { s with string := none, mustContinue := false })
    | none =>
      let goesOn := Text.endsWith text ['\\', '\n'] || Text.endsWith text ['\\', '\x0d', '\n']
      if s.mustContinue && !goesOn then some { s with string := none } else some s
  | none =>
    if s.brackets = 0 && !s.continued then
      let (width, count) := indentation 0 0 text
      match text.drop count with
      | [] => some s
      | c :: rest =>
        if c = '#' then
          let sign := Text.dropRightWhile (fun c => c = '\x0d' || c = '\n') (c :: rest)
          some { s with found := ofText number count sign :: s.found }
        else if c = '\x0d' || c = '\n' then some s
        else
          let top := s.indents.headD 0
          let indents :=
            if top < width then some (width :: s.indents)
            else if width < top && width ≠ 0 && !s.indents.contains width then none
            else some (s.indents.dropWhile (width < ·))
          indents.map fun is =>
            scanTokens number (rest.length + 2) count (c :: rest) { s with indents := is }
    else some (scanTokens number (text.length + 1) 0 text { s with continued := false })

def scanLines : Nat → List Text → Scan → Option Scan
  | _, [], s =>
    if s.string.isSome || s.brackets ≠ 0 || s.continued then none else some s
  | n, l :: ls, s =>
    match scanLine n l s with
    | none => none
    | some s => scanLines (n + 1) ls s

/-- The lines of a text with their line ends. -/
def linesWithEnds (t : Text) : List Text :=
  match (Text.lines t).reverse with
  | [] => []
  | last :: before =>
    let ended := before.reverse.map (· ++ ['\n'])
    if last.isEmpty then ended else ended ++ [last]

/-- The comments of a text from top to bottom, if it can be read. -/
def all? (source : Text) : Option (List Comment) :=
  (scanLines 1 (linesWithEnds source) .start).map (·.found.reverse)

end Comment

end CodeReview.Source
