import CodeReview.Value

/-!
Values written as JSON. All characters outside printable ASCII are escaped, by UTF-16 units, so the
text is the same in every encoding that extends ASCII.
-/

namespace CodeReview.Json

def unitEscape (n : Nat) : Text :=
  "\\u" ++ Text.hex 4 n

def escapedChar (c : Char) : Text :=
  let n := c.toNat
  if c = '"' then "\\\""
  else if c = '\\' then "\\\\"
  else if c = '\n' then "\\n"
  else if c = '\x0d' then "\\r"
  else if c = '\t' then "\\t"
  else if n = 12 then "\\f"
  else if n = 8 then "\\b"
  else if 32 ≤ n && n ≤ 126 then [c]
  else if n < 0x10000 then unitEscape n
  else unitEscape (0xD800 + (n - 0x10000) / 0x400) ++ unitEscape (0xDC00 + (n - 0x10000) % 0x400)

/-- How the characters of a text are written inside quotes. -/
structure Style where
  char : Char → Text

/-- Everything outside printable ASCII is escaped. -/
def ascii : Style :=
  ⟨escapedChar⟩

/-- Only quotes, backslashes and control characters are escaped. -/
def plain : Style :=
  ⟨fun c => if 126 < c.toNat then [c] else escapedChar c⟩

def quoted (s : Style) (t : Text) : Text :=
  "\"" ++ t.flatMap s.char ++ "\""

def numberText : Number → Text
  | .int i => Text.ofInt i
  | .real x =>
    match Number.Parts.of x with
    | .nan => "NaN"
    | .infinite negative => if negative then "-Infinity" else "Infinity"
    | _ => Number.realText x

mutual

/-- A value on one line. -/
def compact (s : Style) : Value → Text
  | .null => "null"
  | .bool true => "true"
  | .bool false => "false"
  | .number n => numberText n
  | .text t => quoted s t
  | .list vs => "[" ++ compactList s vs ++ "]"
  | .object fields => "\x7b" ++ compactFields s fields ++ "\x7d"

def compactList (s : Style) : List Value → Text
  | [] => []
  | [v] => compact s v
  | v :: vs => compact s v ++ ", " ++ compactList s vs

def compactFields (s : Style) : List (Text × Value) → Text
  | [] => []
  | [(k, v)] => quoted s k ++ ": " ++ compact s v
  | (k, v) :: rest => quoted s k ++ ": " ++ compact s v ++ ", " ++ compactFields s rest

end

/-- A new line, indented by a number of levels. -/
def newline (step : Text) (level : Nat) : Text :=
  '\n' :: (List.replicate level step).flatten

mutual

/-- A value with each part of a list or an object on a line of its own. -/
def indented (s : Style) (step : Text) (level : Nat) : Value → Text
  | .null => "null"
  | .bool true => "true"
  | .bool false => "false"
  | .number n => numberText n
  | .text t => quoted s t
  | .list [] => "[]"
  | .list (v :: vs) =>
    "[" ++ indentedList s step (level + 1) (v :: vs) ++ newline step level ++ "]"
  | .object [] => "\x7b\x7d"
  | .object (f :: fs) =>
    "\x7b" ++ indentedFields s step (level + 1) (f :: fs) ++ newline step level ++ "\x7d"

def indentedList (s : Style) (step : Text) (level : Nat) : List Value → Text
  | [] => []
  | [v] => newline step level ++ indented s step level v
  | v :: vs =>
    newline step level ++ indented s step level v ++ "," ++ indentedList s step level vs

def indentedFields (s : Style) (step : Text) (level : Nat) : List (Text × Value) → Text
  | [] => []
  | [(k, v)] => newline step level ++ quoted s k ++ ": " ++ indented s step level v
  | (k, v) :: rest =>
    newline step level ++ quoted s k ++ ": " ++ indented s step level v ++ ","
      ++ indentedFields s step level rest

end

/-- A value as JSON: on one line, or indented by some blanks for each level. -/
def print (s : Style) (indent : Option Nat) (v : Value) : Text :=
  match indent with
  | none => compact s v
  | some n => indented s (Text.repeated n ' ') 0 v

end CodeReview.Json
