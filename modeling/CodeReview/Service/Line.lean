import CodeReview.Failure

/-!
A line to a service, seen from the near end: what will be answered, and what has been asked. Whoever
talks over a line sends questions one after the other, and the line remembers them also where an
answer does not come.
-/

namespace CodeReview

/-- A course of steps on a state. The state is kept when a step fails. -/
abbrev Course (State : Type) := ExceptT Failure (StateM State)

namespace Course

variable {State α : Type}

/-- Steps that may fail without ending the course. -/
def attempt (steps : Course State α) : Course State (Except Failure α) := fun s =>
  let (r, s) := steps.run s
  (.ok r, s)

/-- A step that leaves the state alone. -/
def lift (r : Except Failure α) : Course State α := fun s =>
  (r, s)

end Course

structure Line (Question Answer : Type) where
  /-- The answers that will come, each of which may be that the line breaks. -/
  answers : List (Except Failure Answer)
  /-- What goes wrong when no answer is left. -/
  silence : Failure
  asked : List Question := []

namespace Line

variable {Question Answer : Type}

/-- Sends a question: what is answered, and the line afterwards. -/
def send (line : Line Question Answer) (q : Question) :
    Except Failure Answer × Line Question Answer :=
  let asked := line.asked ++ [q]
  match line.answers with
  | [] => (.error line.silence, { line with asked := asked })
  | a :: rest => (a, { line with answers := rest, asked := asked })

/-- Asks a question over a line. -/
def ask (q : Question) : Course (Line Question Answer) Answer := fun line =>
  line.send q

end Line

end CodeReview
