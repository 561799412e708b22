/-!
Tasks that several workers do side by side.

A task waits until a worker is free, runs, and ends; what it gave is then collected. Workers begin
the tasks in order, but which running task ends next and which ended one is collected next is open.
`Step` allows every choice, and `drain` makes one: it sees each task through before the next one.
-/

namespace CodeReview

structure Pool (α β : Type) where
  workers : Nat
  /-- The tasks that no worker has begun, the next one first. -/
  waiting : List α
  running : List α
  /-- What the tasks gave that have ended and that nobody has collected. -/
  ended : List β
  /-- What has been collected, in that order. -/
  collected : List β

namespace Pool

variable {α β : Type}

/-- A pool in which all tasks wait. -/
def new (workers : Nat) (tasks : List α) : Pool α β :=
  { workers := workers, waiting := tasks, running := [], ended := [], collected := [] }

/-- Whether all tasks have been done and collected. -/
def Done (p : Pool α β) : Prop :=
  p.waiting = [] ∧ p.running = [] ∧ p.ended = []

/-- What may happen next. -/
inductive Step (work : α → β) : Pool α β → Pool α β → Prop
  | start (p : Pool α β) (a : α) (rest : List α) (hfree : p.running.length < p.workers)
      (hnext : p.waiting = a :: rest) :
      Step work p { p with waiting := rest, running := p.running ++ [a] }
  | finish (p : Pool α β) (before after : List α) (a : α)
      (hrunning : p.running = before ++ a :: after) :
      Step work p { p with running := before ++ after, ended := p.ended ++ [work a] }
  | collect (p : Pool α β) (before after : List β) (b : β)
      (hended : p.ended = before ++ b :: after) :
      Step work p { p with ended := before ++ after, collected := p.collected ++ [b] }

/-- The step that brings on the task that is furthest along; none if there is nothing to do, or
nobody to do it. -/
def advance? (work : α → β) (p : Pool α β) : Option (Pool α β) :=
  match p.ended, p.running, p.waiting with
  | b :: rest, _, _ => some { p with ended := rest, collected := p.collected ++ [b] }
  | [], a :: rest, _ => some { p with running := rest, ended := [work a] }
  | [], [], a :: rest =>
    if 0 < p.workers then some { p with waiting := rest, running := [a] } else none
  | [], [], [] => none

/-- The steps that are left. -/
def load (p : Pool α β) : Nat :=
  3 * p.waiting.length + 2 * p.running.length + p.ended.length

/-- Every step leaves one step less to do. -/
theorem load_of_step {work : α → β} {p q : Pool α β} (h : Step work p q) :
    p.load = q.load + 1 := by
  cases h with
  | start a rest hfree hnext =>
    simp only [load, hnext, List.length_append, List.length_cons, List.length_nil]
    omega
  | finish before after a hrunning =>
    simp only [load, hrunning, List.length_append, List.length_cons, List.length_nil]
    omega
  | collect before after b hended =>
    simp only [load, hended, List.length_append, List.length_cons]
    omega

theorem step_of_advance? {work : α → β} {p q : Pool α β} (h : p.advance? work = some q) :
    Step work p q := by
  obtain ⟨workers, waiting, running, ended, collected⟩ := p
  match ended, running, waiting with
  | b :: rest, running, waiting =>
    obtain rfl := Option.some.inj h
    exact .collect _ [] rest b rfl
  | [], a :: rest, waiting =>
    obtain rfl := Option.some.inj h
    exact .finish _ [] rest a rfl
  | [], [], a :: rest =>
    by_cases hw : 0 < workers
    · simp only [advance?, hw, if_true, Option.some.injEq] at h
      obtain rfl := h
      exact .start _ a rest hw rfl
    · simp [advance?, hw] at h
  | [], [], [] => simp [advance?] at h

/-- Goes on until there is nothing to do. -/
def drain (work : α → β) (p : Pool α β) : Pool α β :=
  match _h : p.advance? work with
  | some q => drain work q
  | none => p
termination_by p.load
decreasing_by
  have := load_of_step (step_of_advance? _h)
  omega

end Pool

end CodeReview
