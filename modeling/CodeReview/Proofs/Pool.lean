import CodeReview.Review.Pool
import Mathlib.Data.List.Perm.Basic
import Mathlib.Logic.Relation

/-!
# Pools

Whatever happens in a pool, what it has given and what it will give stay the same up to their order.
So a pool that is done has given what its tasks give, each once. With a worker a pool is never stuck
before it is done, it does not go on for ever, and every order of what the tasks give can come
about.
-/

namespace CodeReview.Pool

variable {α β : Type} {work : α → β} {p q : Pool α β}

/-- A pool after any number of steps. -/
def Runs (work : α → β) : Pool α β → Pool α β → Prop :=
  Relation.ReflTransGen (Step work)

/-- What has been collected, what can be, and what the tasks that are left will give. -/
def yield (work : α → β) (p : Pool α β) : List β :=
  p.collected ++ (p.ended ++ (p.running ++ p.waiting).map work)

theorem yield_perm_of_step (h : Step work p q) : (q.yield work).Perm (p.yield work) := by
  cases h with
  | start a rest hfree hnext =>
    -- The first waiting task becomes the last running one, so nothing moves in the whole.
    simp only [yield, hnext, List.append_assoc, List.singleton_append]
    exact .refl _
  | finish before after a hrunning =>
    -- What the task gives moves to the front of what the running tasks will give.
    simp only [yield, hrunning, List.append_assoc, List.map_append, List.cons_append,
      List.map_cons, List.nil_append]
    exact (List.perm_middle.symm.append_left _).append_left _
  | collect before after b hended =>
    simp only [yield, hended, List.append_assoc, List.cons_append, List.nil_append]
    exact List.perm_middle.symm.append_left _

theorem yield_perm_of_runs (h : Runs work p q) : (q.yield work).Perm (p.yield work) := by
  induction h with
  | refl => exact .refl _
  | tail _ hstep ih => exact (yield_perm_of_step hstep).trans ih

/-- What a pool with some workers may give for tasks, in the order in which it is collected. -/
def Yields (work : α → β) (workers : Nat) (tasks : List α) (out : List β) : Prop :=
  ∃ p, Runs work (.new workers tasks) p ∧ p.Done ∧ p.collected = out

variable {workers : Nat}

/-- A pool that is done has given what its tasks give, in some order. -/
theorem perm_of_yields {tasks : List α} {out : List β}
    (h : Yields work workers tasks out) : out.Perm (tasks.map work) := by
  obtain ⟨p, hruns, ⟨hwaiting, hrunning, hended⟩, rfl⟩ := h
  have hyield := yield_perm_of_runs hruns
  simp only [yield, new, hwaiting, hrunning, hended, List.nil_append, List.map_nil,
    List.append_nil] at hyield
  exact hyield

/-! ## Coming to an end -/

theorem workers_of_step (h : Step work p q) : q.workers = p.workers := by
  cases h <;> rfl

theorem workers_of_runs (h : Runs work p q) : q.workers = p.workers := by
  induction h with
  | refl => rfl
  | tail _ hstep ih => exact (workers_of_step hstep).trans ih

/-- Where nothing can be done, all is done. -/
theorem done_of_advance?_eq_none (hworkers : 0 < p.workers) (h : p.advance? work = none) :
    p.Done := by
  obtain ⟨workers, waiting, running, ended, collected⟩ := p
  match ended, running, waiting with
  | b :: rest, running, waiting => simp [advance?] at h
  | [], a :: rest, waiting => simp [advance?] at h
  | [], [], a :: rest =>
    -- Nothing runs, so a worker is free to begin the task.
    simp only [advance?] at h
    rw [if_pos hworkers] at h
    exact absurd h (by simp)
  | [], [], [] => exact ⟨rfl, rfl, rfl⟩

theorem runs_drain (work : α → β) (p : Pool α β) : Runs work p (p.drain work) := by
  fun_induction drain work p with
  | case1 p q h ih => exact (Relation.ReflTransGen.single (step_of_advance? h)).trans ih
  | case2 p h => exact .refl

theorem done_drain (work : α → β) {p : Pool α β} (hworkers : 0 < p.workers) :
    (p.drain work).Done := by
  fun_induction drain work p with
  | case1 p q h ih => exact ih (by rw [workers_of_step (step_of_advance? h)]; exact hworkers)
  | case2 p h => exact done_of_advance?_eq_none hworkers h

theorem exists_runs_done (h : Runs work p q) (hworkers : 0 < p.workers) :
    ∃ last, Runs work q last ∧ last.Done :=
  ⟨q.drain work, runs_drain work q, done_drain work (workers_of_runs h ▸ hworkers)⟩

theorem yields_drain (work : α → β) (hworkers : 0 < workers) (tasks : List α) :
    Yields work workers tasks ((new workers tasks).drain work).collected :=
  ⟨_, runs_drain work _, done_drain work hworkers, rfl⟩

/-! ## Every order -/

/-- One worker is enough to end all tasks before anything is collected. -/
theorem runs_all_ended (hworkers : 0 < workers) (tasks : List α) (ended collected : List β) :
    Runs work ⟨workers, tasks, [], ended, collected⟩
      ⟨workers, [], [], ended ++ tasks.map work, collected⟩ := by
  induction tasks generalizing ended with
  | nil =>
    rw [List.map_nil, List.append_nil]
    exact .refl
  | cons a rest ih =>
    have hstart : Step work ⟨workers, a :: rest, [], ended, collected⟩
        ⟨workers, rest, [a], ended, collected⟩ := .start _ a rest hworkers rfl
    have hfinish : Step work ⟨workers, rest, [a], ended, collected⟩
        ⟨workers, rest, [], ended ++ [work a], collected⟩ := .finish _ [] [] a rfl
    have hrest := ih (ended ++ [work a])
    rw [List.append_assoc, List.singleton_append, ← List.map_cons] at hrest
    exact .head hstart (.head hfinish hrest)

/-- What has ended can be collected in any order. -/
theorem runs_collect {ended out : List β} (h : ended.Perm out) (collected : List β) :
    Runs work ⟨workers, [], [], ended, collected⟩ ⟨workers, [], [], [], collected ++ out⟩ := by
  induction out generalizing ended collected with
  | nil =>
    rw [h.eq_nil, List.append_nil]
    exact .refl
  | cons b out ih =>
    obtain ⟨before, after, rfl⟩ := List.append_of_mem (h.mem_iff.mpr List.mem_cons_self)
    have hothers : (before ++ after).Perm out := (List.perm_middle.symm.trans h).cons_inv
    have hcollect : Step work ⟨workers, [], [], before ++ b :: after, collected⟩
        ⟨workers, [], [], before ++ after, collected ++ [b]⟩ := .collect _ before after b rfl
    have hrest := ih hothers (collected ++ [b])
    rw [List.append_assoc, List.singleton_append] at hrest
    exact .head hcollect hrest

/-- A pool may give what its tasks give in every order, and nothing else. -/
theorem yields_iff_perm (hworkers : 0 < workers) {tasks : List α} {out : List β} :
    Yields work workers tasks out ↔ out.Perm (tasks.map work) := by
  refine ⟨perm_of_yields, fun h => ?_⟩
  have hended : Runs work (.new workers tasks) ⟨workers, [], [], tasks.map work, []⟩ :=
    runs_all_ended hworkers tasks [] []
  exact ⟨_, hended.trans (runs_collect h.symm []), ⟨rfl, rfl, rfl⟩, rfl⟩

end CodeReview.Pool
