import CodeReview.Failure
import CodeReview.Text.Blank

/-!
The lines of a text counted one after the other, with an eye on the strings in three quotes that go
on in the next line.
-/

namespace CodeReview.Source

/-- What has been counted so far, and the string that is open. -/
structure Tally where
  blank : Nat := 0
  comments : Nat := 0
  code : Nat := 0
  /-- A string in three quotes goes on in the next line. -/
  inString : Bool := false
  /-- The quotes that the string waits for. -/
  quotes : Option Text := none
  deriving DecidableEq, Repr

namespace Tally

/-- Looks at a line for quotes that open a string or close the one that is open. A string opens only
where its quotes stand once, and cannot be closed without quotes to wait for. -/
def follow (t : Tally) (line : Text) : Except Failure Tally :=
  if t.inString then
    match t.quotes with
    | none => .error (.notInText "NoneType")
    | some quotes =>
      .ok (if Text.contains line quotes then { t with inString := false, quotes := none } else t)
  else if Text.contains line "\"\"\"" || Text.contains line "'''" then
    let quotes : Text := if Text.contains line "\"\"\"" then "\"\"\"" else "'''"
    .ok (if Text.countOf line quotes = 1 then { t with inString := true, quotes := some quotes }
      else t)
  else .ok t

/-- Counts a line without the blanks around it. -/
def count (t : Tally) (line : Text) : Tally :=
  if line.isEmpty then { t with blank := t.blank + 1 }
  else if Text.startsWith line ['#'] then { t with comments := t.comments + 1 }
  else { t with code := t.code + 1 }

def add (t : Tally) (line : Text) : Except Failure Tally := do
  let stripped := Text.strip line
  return (← t.follow stripped).count stripped

end Tally

/-- The numbers of lines that a tally comes to. -/
structure LineTally where
  total : Nat
  blank : Nat
  comments : Nat
  code : Nat
  deriving DecidableEq, Repr

def tallyLines (source : Text) : Except Failure LineTally := do
  let lines := Text.lines source
  let t ← lines.foldlM Tally.add {}
  return { total := lines.length, blank := t.blank, comments := t.comments, code := t.code }

end CodeReview.Source
