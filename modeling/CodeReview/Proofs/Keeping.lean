import CodeReview.Proofs.Placement
import CodeReview.Source.Parser

/-!
# Parsers that keep within the lines of a text

A parser that is given tokens within `N` lines should build nothing that stands elsewhere. `Yields`
says what a parser that succeeds gives back, and that the tokens it leaves are within the lines
still; `Keeps` says that the result is within them as well. Only readings that do not look for
mistakes are asked about: the others give no tree.

`Keeps` is a class, so that a rule that is put together from others is looked at step by step, and
each step that is a rule of its own is found by its instance.
-/

namespace CodeReview.Source

open Placed

instance : Placed Parser.State := ⟨fun N s => Within N s.rest⟩

namespace Parser

/-- What a parser gives back for tokens within the lines; those that it leaves are within them
too. -/
def Yields {α : Type} (N : Nat) (p : Parser α) (Q : α → Prop) : Prop :=
  ∀ ⦃r : Reading⦄ ⦃s : State⦄, r.diagnose = false → Within N s →
    ∀ ⦃a : α⦄ ⦃t : State⦄, p r s = .ok a t → Q a ∧ Within N t

/-- The parser builds nothing outside the lines. -/
class Keeps {α : Type} [Placed α] (N : Nat) (p : Parser α) : Prop where
  yields : Yields N p (Within N)

namespace Yields

variable {N : Nat} {α β : Type} {p : Parser α} {P Q : α → Prop} {R : β → Prop}

theorem mono (h : Yields N p P) (hQ : ∀ a, P a → Q a) : Yields N p Q := by
  intro r s hr hs a t e
  obtain ⟨ha, ht⟩ := h hr hs e
  exact ⟨hQ a ha, ht⟩

theorem pure {a : α} (h : Q a) : Yields N (Pure.pure a) Q := by
  intro r s _ hs b t e
  cases e
  exact ⟨h, hs⟩

theorem bind {f : α → Parser β} (h : Yields N p P) (hf : ∀ a, P a → Yields N (f a) R) :
    Yields N (p >>= f) R := by
  intro r s hr hs b u e
  simp only [Bind.bind] at e
  cases hp : p r s with
  | ok a t =>
    rw [hp] at e
    obtain ⟨ha, ht⟩ := h hr hs hp
    exact hf a ha hr ht e
  | fail n =>
    rw [hp] at e
    cases e
  | raise d n =>
    rw [hp] at e
    cases e
  | stopped =>
    rw [hp] at e
    cases e

theorem ite {c : Prop} [Decidable c] {q : Parser α} (hp : c → Yields N p Q)
    (hq : ¬ c → Yields N q Q) : Yields N (if c then p else q) Q := by
  split
  · next h => exact hp h
  · next h => exact hq h

theorem fail : Yields N (fail : Parser α) Q := by
  intro _ _ _ _ _ _ e
  cases e

theorem raiseAt {line : Nat} {fault : Fault} : Yields N (raiseAt line fault : Parser α) Q := by
  intro _ _ _ _ _ _ e
  cases e

theorem raise {fault : Fault} : Yields N (raise fault : Parser α) Q := by
  intro _ _ _ _ _ _ e
  cases e

theorem orElse {q : Parser α} (hp : Yields N p Q) (hq : Yields N q Q) :
    Yields N (orElse p q) Q := by
  intro r s hr hs a t e
  rw [Parser.orElse] at e
  split at e
  · next n _ => exact hq (s := { s with reach := max s.reach n }) hr hs e
  · exact hp hr hs e

end Yields

namespace Keeps

variable {N : Nat} {α β : Type} [Placed α] [Placed β] {p q : Parser α}

theorem pure {a : α} (h : Within N a) : Keeps N (Pure.pure a : Parser α) :=
  ⟨.pure h⟩

theorem andThen (h : Keeps N p) {f : α → Parser β} (hf : ∀ a, Within N a → Keeps N (f a)) :
    Keeps N (p >>= f) :=
  ⟨h.yields.bind fun a ha => (hf a ha).yields⟩

/-- `andThen` for a first step with an instance. -/
theorem bind [h : Keeps N p] {f : α → Parser β} (hf : ∀ a, Within N a → Keeps N (f a)) :
    Keeps N (p >>= f) :=
  h.andThen hf

theorem ite {c : Prop} [Decidable c] (hp : Keeps N p) (hq : Keeps N q) :
    Keeps N (if c then p else q) :=
  ⟨.ite (fun _ => hp.yields) fun _ => hq.yields⟩

instance [Keeps N p] {f : α → Parser β} [hf : ∀ a, Keeps N (f a)] : Keeps N (p >>= f) :=
  .bind fun a _ => hf a

instance {c : Prop} [Decidable c] [hp : Keeps N p] [hq : Keeps N q] :
    Keeps N (if c then p else q) :=
  ite hp hq

instance : Keeps N (fail : Parser α) := ⟨.fail⟩

instance {line : Nat} {fault : Fault} : Keeps N (raiseAt line fault : Parser α) := ⟨.raiseAt⟩

instance {fault : Fault} : Keeps N (raise fault : Parser α) := ⟨.raise⟩

instance orElse [hp : Keeps N p] [hq : Keeps N q] : Keeps N (orElse p q) :=
  ⟨.orElse hp.yields hq.yields⟩

instance [Keeps N p] : Keeps N (some <$> p) :=
  .bind fun _ ha => .pure (a := some _) ha

instance optional [h : Keeps N p] : Keeps N (optional p) := by
  have none : Keeps N (Pure.pure none : Parser (Option α)) := .pure trivial
  exact orElse

/-! ## What takes no token -/

instance lookahead {γ : Type} {p : Parser γ} : Keeps N (lookahead p) := by
  constructor
  intro r s _ hs a t e
  rw [Parser.lookahead] at e
  split at e
  all_goals cases e
  all_goals exact ⟨trivial, hs⟩

instance diagnosing : Keeps N diagnosing := by
  constructor
  intro r s _ hs a t e
  cases e
  exact ⟨trivial, hs⟩

instance here : Keeps N here := by
  constructor
  intro r s _ hs a t e
  cases e
  exact ⟨hs, hs⟩

instance plainly [h : Keeps N p] : Keeps N (plainly p) := by
  constructor
  intro r s _ hs a t e
  exact h.yields rfl hs e

/-- Mistakes are looked for in a second reading only, which gives nothing back. -/
instance whenDiagnosing {p : Parser Unit} : Keeps N (whenDiagnosing p) := by
  constructor
  intro r s hr hs a t e
  rw [Parser.whenDiagnosing, hr] at e
  cases e
  exact ⟨trivial, hs⟩

/-! ## Tokens -/

instance peek : Keeps N peek := by
  constructor
  intro r s _ hs a t e
  simp only [Parser.peek] at e
  split at e
  · cases e
  · next rest hrest =>
    change Within N s.rest at hs
    rw [hrest] at hs
    split at e
    · cases e
    · cases e
      refine ⟨hs.1, ?_⟩
      change Within N s.rest
      rw [hrest]
      exact hs

instance next : Keeps N next := by
  refine .bind fun t ht => ⟨?_⟩
  intro r s _ hs a u e
  cases e
  exact ⟨ht, hs.subset fun _ => List.mem_of_mem_drop⟩

instance take {test : Token → Bool} : Keeps N (take test) :=
  inferInstanceAs (Keeps N (Parser.peek >>= fun t => if test t then Parser.next else Parser.fail))

instance word {w : Text} : Keeps N (word w) := take

instance sees {w : Text} : Keeps N (sees w) :=
  .bind fun _ _ => .pure trivial

instance seesAny {ws : List Text} : Keeps N (seesAny ws) :=
  .bind fun _ _ => .pure trivial

instance accept {w : Text} : Keeps N (accept w) :=
  .bind fun _ _ => .ite (.bind fun _ _ => .pure trivial) (.pure trivial)

instance newline : Keeps N newline :=
  .bind fun _ _ => .pure trivial

instance demand {w : Text} : Keeps N (demand w) :=
  .bind fun _ _ => .ite inferInstance inferInstance

/-! ## Repetition -/

theorem iterate {step : α → Parser α} (hstep : ∀ a, Within N a → Keeps N (step a)) (n : Nat)
    {a : α} (ha : Within N a) : Keeps N (iterate step n a) := by
  induction n generalizing a with
  | zero => exact .pure ha
  | succ n ih =>
    have := hstep a ha
    refine .bind fun o ho => ?_
    cases o with
    | none => exact .pure ha
    | some b => exact ih ho

/-- What each step keeps, the whole run keeps. -/
theorem loop {step : α → Parser α} {a : α} (ha : Within N a)
    (hstep : ∀ a, Within N a → Keeps N (step a)) : Keeps N (loop step a) := by
  constructor
  intro r s hr hs b t e
  exact (iterate hstep (s.rest.length + 1) ha).yields hr hs e

instance sepBy1 [h : Keeps N p] {sep : Text} : Keeps N (sepBy1 p sep) := by
  refine .bind fun first hfirst => ?_
  refine .andThen (loop ?_ fun acc hacc => ?_) fun found hfound => ?_
  · exact ⟨hfirst, trivial⟩
  · exact .bind fun _ _ => .bind fun a ha => .pure ⟨ha, hacc⟩
  · exact .pure hfound.reverse

instance many [h : Keeps N p] : Keeps N (many p) := by
  refine .andThen (loop trivial fun acc hacc => ?_) fun found hfound => ?_
  · exact .bind fun a ha => .pure ⟨ha, hacc⟩
  · exact .pure hfound.reverse

instance many1 [h : Keeps N p] : Keeps N (many1 p) :=
  .bind fun _ hfirst => .bind fun _ hmore => .pure ⟨hfirst, hmore⟩

omit [Placed β]

theorem foldlM {f : α → β → Parser α} {l : List β} {a : α} (ha : Within N a)
    (h : ∀ b ∈ l, ∀ a, Within N a → Keeps N (f a b)) : Keeps N (l.foldlM f a) := by
  induction l generalizing a with
  | nil => exact .pure ha
  | cons b l ih =>
    obtain ⟨hb, hl⟩ := List.forall_mem_cons.mp h
    rw [List.foldlM_cons]
    exact .andThen (hb a ha) fun _ ha' => ih ha' hl

theorem mapM {f : β → Parser α} {l : List β} (h : ∀ b ∈ l, Keeps N (f b)) : Keeps N (l.mapM f) := by
  suffices hloop : ∀ acc, Within N acc → Keeps N (List.mapM.loop f l acc) from hloop [] trivial
  induction l with
  | nil => exact fun acc hacc => .pure hacc.reverse
  | cons b l ih =>
    obtain ⟨hb, hl⟩ := List.forall_mem_cons.mp h
    exact fun acc hacc => .andThen hb fun a ha => ih hl (a :: acc) ⟨ha, hacc⟩

end Keeps

/-- What a text is parsed as is within the lines of its tokens. -/
theorem within_of_run {N : Nat} {α : Type} [Placed α] {p : Parser α} [h : Keeps N p]
    {wrap : Fault → Fault} {tokens : List Token} (ht : Within N tokens) {a : α}
    (e : run p wrap tokens = .ok a) : Within N a := by
  simp only [run] at e
  split at e
  · next b s hb =>
    cases e
    exact (h.yields rfl ht hb).1
  · cases e
  · cases e
  · split at e
    all_goals cases e

end Parser

end CodeReview.Source
