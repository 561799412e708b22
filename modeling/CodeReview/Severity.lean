import CodeReview.Failure

/-!
How bad an issue is. There are five levels; an issue that comes from elsewhere may be rated with
another word, which no level-based rule knows.
-/

namespace CodeReview

inductive Severity where
  | critical
  | high
  | medium
  | low
  | info
  deriving DecidableEq, Repr, Inhabited

namespace Severity

/-- All levels, the worst first. -/
def all : List Severity :=
  [critical, high, medium, low, info]

def toText : Severity → Text
  | critical => "critical"
  | high => "high"
  | medium => "medium"
  | low => "low"
  | info => "info"

def ofText? (t : Text) : Option Severity :=
  all.find? fun s => s.toText = t

/-- The place among all levels, the worst being 0. -/
def rank : Severity → Nat
  | critical => 0
  | high => 1
  | medium => 2
  | low => 3
  | info => 4

/-- The color for terminals. -/
def color : Severity → Text
  | critical => "red"
  | high => "red"
  | medium => "yellow"
  | low => "blue"
  | info => "dim"

def emoji : Severity → Text
  | critical => "🔴"
  | high => "🟠"
  | medium => "🟡"
  | low => "🔵"
  | info => "ℹ️"

/-- The points that an issue takes off the score. -/
def deduction : Severity → Int
  | critical => 15
  | high => 10
  | medium => 5
  | low => 2
  | info => 0

/-- The name with a capital letter. -/
def title : Severity → Text
  | critical => "Critical"
  | high => "High"
  | medium => "Medium"
  | low => "Low"
  | info => "Info"

def parse (t : Text) : Except Failure Severity :=
  match ofText? t with
  | some s => .ok s
  | none => .error (.notValid t "Severity")

theorem ofText?_toText (s : Severity) : ofText? s.toText = some s := by
  cases s <;> decide

end Severity

/-- What an issue is rated as: a level, or any other word. -/
inductive Rating where
  | level (s : Severity)
  | other (t : Text)
  deriving DecidableEq, Repr, Inhabited

namespace Rating

instance : Coe Severity Rating := ⟨.level⟩

def ofText (t : Text) : Rating :=
  match Severity.ofText? t with
  | some s => .level s
  | none => .other t

def toText : Rating → Text
  | level s => s.toText
  | other t => t

def severity? : Rating → Option Severity
  | level s => some s
  | other _ => none

/-- The level, where only a level will do. -/
def severity : Rating → Except Failure Severity
  | level s => .ok s
  | other _ => .error (.missingMember "str" "value")

/-- The place among the levels; a word that is none counts as the mildest. -/
def rank : Rating → Nat
  | level s => s.rank
  | other _ => 4

/-- The place in a list from the worst to the mildest; a word that is no level comes last. -/
def place : Rating → Nat
  | level s => s.rank
  | other _ => 5

def deduction : Rating → Int
  | level s => s.deduction
  | other _ => 0

end Rating

end CodeReview
