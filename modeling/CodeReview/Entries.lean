import CodeReview.Text.Basic

/-!
Named entries in the order in which their names were first put in. Putting in a name that is there
already changes its entry and not its place.
-/

namespace CodeReview

abbrev Entries (α : Type) := List (Text × α)

namespace Entries

variable {α : Type}

def get? (es : Entries α) (name : Text) : Option α :=
  match es with
  | [] => none
  | (n, a) :: rest => if n = name then some a else get? rest name

def has (es : Entries α) (name : Text) : Bool :=
  (get? es name).isSome

def put (es : Entries α) (name : Text) (a : α) : Entries α :=
  match es with
  | [] => [(name, a)]
  | (n, b) :: rest => if n = name then (n, a) :: rest else (n, b) :: put rest name a

def remove (es : Entries α) (name : Text) : Entries α :=
  es.filter fun e => e.1 ≠ name

/-- The entries of a list of pairs in which a name may come again. -/
def ofPairs (ps : List (Text × α)) : Entries α :=
  ps.foldl (fun es p => put es p.1 p.2) []

def names (es : Entries α) : List Text :=
  es.map (·.1)

def values (es : Entries α) : List α :=
  es.map (·.2)

/-- Counts one more of a name. -/
def count (es : Entries Int) (name : Text) : Entries Int :=
  put es name ((get? es name).getD 0 + 1)

/-- How often each name occurs. -/
def tally (ns : List Text) : Entries Int :=
  ns.foldl count []

/-- Adds something to what its key leads to already. -/
def gather (key : α → Text) (groups : Entries (List α)) (a : α) : Entries (List α) :=
  let name := key a
  put groups name ((get? groups name).getD [] ++ [a])

theorem get?_put_self (es : Entries α) (name : Text) (a : α) :
    get? (put es name a) name = some a := by
  induction es with
  | nil => simp [put, get?]
  | cons e rest ih =>
    obtain ⟨n, b⟩ := e
    by_cases h : n = name <;> simp [put, get?, h, ih]

theorem get?_put_of_ne {name other : Text} (es : Entries α) (a : α) (h : other ≠ name) :
    get? (put es name a) other = get? es other := by
  induction es with
  | nil => simp [put, get?, Ne.symm h]
  | cons e rest ih =>
    obtain ⟨n, b⟩ := e
    by_cases hn : n = name
    · subst hn
      simp [put, get?, Ne.symm h]
    · by_cases ho : n = other <;> simp [put, get?, hn, ho, ih, h]

end Entries

end CodeReview
