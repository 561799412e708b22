import CodeReview.Failure
import CodeReview.Value

/-!
A library that looks at sources can be looked at itself: a sheet runs a part of it on small samples
and tells what came out.
-/

namespace CodeReview.SelfCheck

/-- The lines of a sheet, or why it could not be filled in. -/
abbrev Sheet := Except Failure (List Text)

def rule : Text :=
  Text.repeated 60 '='

def underline : Text :=
  Text.repeated 40 '-'

/-- A sheet with a title, its parts with a blank line before each of them, and an end. -/
def sheet (title : Text) (parts : List (List Text)) : List Text :=
  List.flatten
    [[rule, "TESTING " ++ title, rule], parts.flatMap fun p => [] :: p,
      [[], rule, title ++ ": ALL TESTS PASSED", rule]]

/-- A line about something that went well. -/
def passed (t : Text) : Text :=
  "   ✓ " ++ t

/-- Such a line about a part of a part. -/
def passedInside (t : Text) : Text :=
  "   " ++ passed t

/-- A line of a list. -/
def item (t : Text) : Text :=
  "      - " ++ t

def yesNo (b : Bool) : Text :=
  (Value.bool b).shown

/-- A sheet as it is printed. -/
def print (s : Sheet) : Except Failure Text := do
  return (← s).flatMap fun l => l ++ ['\n']

end CodeReview.SelfCheck
