import CodeReview.Proofs.Limits
import Mathlib.Algebra.Order.Field.Rat
import Mathlib.Algebra.Order.Field.Basic
import Mathlib.Order.WithBot
import Mathlib.Tactic.Ring

/-!
# Loosening limits

A limit is a number, whole or floating-point, and a yes or no counts as one or zero. `Number.value`
says which rational number or infinity it is; a count is past a limit just if it is above that value
(`Number.lt_int_iff`). So whatever is past a limit is past every limit of a lower value, and an
analyzer with higher limits finds part of what it finds with lower ones, in the same order.
-/

namespace CodeReview

namespace Number

/-- The rational number or infinity that a number is. -/
def value : Number → Option (WithBot (WithTop ℚ))
  | .int i => some ((i : ℚ) : WithTop ℚ)
  | .real x =>
    match Parts.of x with
    | .finite negative m e => some (((if negative then -1 else 1) * m * 2 ^ e : ℚ) : WithTop ℚ)
    | .infinite negative => some (if negative then ⊥ else ((⊤ : WithTop ℚ) : WithBot (WithTop ℚ)))
    | .nan => none

theorem shifted_pos (m : Nat) (e : Int) : 0 < (shifted m 1 e).2 := by
  unfold shifted
  split
  · exact Nat.one_pos
  · exact Nat.mul_pos Nat.one_pos (Nat.pow_pos (by decide))

/-- A shift is a product with a power of two. -/
theorem shifted_eq (m : Nat) (e : Int) :
    ((shifted m 1 e).1 : ℚ) = m * 2 ^ e * (shifted m 1 e).2 := by
  unfold shifted
  split
  · next h =>
    obtain ⟨k, rfl⟩ := Int.eq_ofNat_of_zero_le h
    simp
  · next h =>
    obtain ⟨k, hk⟩ := Int.eq_ofNat_of_zero_le (a := -e) (by omega)
    have he : e = -(k : Int) := by omega
    subst he
    simp [zpow_neg]

theorem signed_natAbs (n : Int) : (if n < 0 then -1 else 1 : Int) * n.natAbs = n := by
  split <;> omega

/-- A fraction is compared with a whole number after both are multiplied by its denominator. -/
theorem shifted_lt_iff (sign : Int) (m : Nat) (e n : Int) :
    sign * (shifted m 1 e).1 < n * (shifted m 1 e).2 ↔ (sign * m * 2 ^ e : ℚ) < n := by
  have hpos : (0 : ℚ) < (shifted m 1 e).2 := Nat.cast_pos.mpr (shifted_pos m e)
  calc sign * (shifted m 1 e).1 < n * (shifted m 1 e).2
      ↔ (sign * (shifted m 1 e).1 : ℚ) < n * (shifted m 1 e).2 := by exact_mod_cast Iff.rfl
    _ ↔ (sign * m * 2 ^ e : ℚ) * (shifted m 1 e).2 < n * (shifted m 1 e).2 := by
        rw [shifted_eq]
        ring_nf
    _ ↔ (sign * m * 2 ^ e : ℚ) < n := mul_lt_mul_iff_of_pos_right hpos

/-- A whole number is above a number just if it is above its value. -/
theorem lt_int_iff (a : Number) (n : Int) :
    a.lt (.int n) = true
      ↔ ∃ x, a.value = some x ∧ x < (((n : ℚ) : WithTop ℚ) : WithBot (WithTop ℚ)) := by
  cases a with
  | int i => simp [lt, value]
  | real x =>
    cases hparts : Parts.of x with
    | nan => simp [lt, value, fraction?, infinity?, hparts]
    -- Only the lower infinity is below a whole number.
    | infinite negative => cases negative <;> simp [lt, value, fraction?, infinity?, hparts]
    | finite negative m e =>
      have hlt := shifted_lt_iff (if negative then -1 else 1) m e n
      rw [Int.cast_ite, Int.cast_neg, Int.cast_one] at hlt
      simp only [lt, value, fraction?, hparts, decide_eq_true_eq, signed_natAbs, Nat.cast_one,
        mul_one, Option.some.injEq, exists_eq_left', WithBot.coe_lt_coe, WithTop.coe_lt_coe]
      exact hlt

end Number

/-! ## Limits and their values -/

namespace Setting

/-- The value of a limit; what is neither a number nor a yes or no has none. -/
def limit? : Setting Number → Option (WithBot (WithTop ℚ))
  | proper n => n.value
  | other (.bool b) => (Number.int (if b then 1 else 0)).value
  | other _ => none

/-- Both limits have a value, and that of the first is no more than that of the second. -/
def NoMoreThan (l l' : Setting Number) : Prop :=
  ∃ x x', l.limit? = some x ∧ l'.limit? = some x' ∧ x ≤ x'

theorem noMoreThan_of_le {a b : Int} (h : a ≤ b) :
    NoMoreThan (.proper (.int a)) (.proper (.int b)) := by
  refine ⟨_, _, rfl, rfl, ?_⟩
  rw [WithBot.coe_le_coe, WithTop.coe_le_coe]
  exact Int.cast_le.mpr h

/-- A count can be compared with a limit that has a value, and is past it just if it is above. -/
theorem exceededBy_iff {l : Setting Number} {x : WithBot (WithTop ℚ)} (h : l.limit? = some x)
    (n : Int) :
    ∃ past, l.exceededBy n = .ok past
      ∧ (past = true ↔ x < (((n : ℚ) : WithTop ℚ) : WithBot (WithTop ℚ))) := by
  have hlt : ∀ a : Number, a.value = some x →
      (a.lt n = true ↔ x < (((n : ℚ) : WithTop ℚ) : WithBot (WithTop ℚ))) := by
    intro a ha
    rw [Number.lt_int_iff, ha]
    simp only [Option.some.injEq, exists_eq_left']
  unfold limit? at h
  split at h
  · next a => exact ⟨a.lt n, rfl, hlt a h⟩
  · next b =>
    refine ⟨_, rfl, ?_⟩
    cases b with
    | true => exact hlt _ h
    | false => exact hlt _ h
  · exact nomatch h

theorem NoMoreThan.atMost {l l' : Setting Number} (h : l.NoMoreThan l') : l.AtMost l' := by
  obtain ⟨x, x', hx, hx', hle⟩ := h
  intro n
  obtain ⟨past, hpast, hiff⟩ := exceededBy_iff hx n
  obtain ⟨past', hpast', hiff'⟩ := exceededBy_iff hx' n
  refine ⟨past, past', hpast, hpast', fun hover => ?_⟩
  rw [hiff]
  exact hle.trans_lt (hiff'.mp hover)

end Setting

/-- Settings whose limits are all no more than those of other settings. -/
structure Settings.Tighter (s s' : Settings) : Prop where
  complexity : s.maxComplexity.NoMoreThan s'.maxComplexity
  nesting : s.maxNesting.NoMoreThan s'.maxNesting
  functionLines : s.maxFunctionLines.NoMoreThan s'.maxFunctionLines
  parameters : s.maxParameters.NoMoreThan s'.maxParameters
  lineLength : s.maxLineLength.NoMoreThan s'.maxLineLength
  fileLines : s.maxFileLines.NoMoreThan s'.maxFileLines

theorem Settings.Tighter.stricter {s s' : Settings} (h : s.Tighter s') : s.Stricter s' where
  complexity := h.complexity.atMost
  nesting := h.nesting.atMost
  functionLines := h.functionLines.atMost
  parameters := h.parameters.atMost
  lineLength := h.lineLength.atMost
  fileLines := h.fileLines.atMost

namespace Analysis

/-- With higher limits the analyzer finds part of what it finds with lower ones, in the same order
and with the same types, severities, lines and metadata. -/
theorem complexity_sublist {s s' : Settings} (h : s.Tighter s') (subject : Subject)
    (given : Option Source.Node) :
    ∃ issues issues', (complexity s).run subject given = .ok issues
      ∧ (complexity s').run subject given = .ok issues'
      ∧ (issues'.map Issue.essence).Sublist (issues.map Issue.essence) := by
  simp only [complexity, Analyzer.onTree]
  cases subject.tree? given with
  | none => exact ⟨[], [], rfl, rfl, .refl _⟩
  | some tree => exact covers_complexityIssues h.stricter subject tree

/-- Limits of one; the one on parameters is written as a yes. -/
def picky : Settings :=
  { Settings.standard with maxComplexity := 1, maxParameters := .other (.bool true) }

/-- Picky about parameters only. -/
def calmer : Settings :=
  { picky with maxComplexity := 2 }

theorem picky_tighter : picky.Tighter calmer where
  complexity := Setting.noMoreThan_of_le (by decide)
  nesting := Setting.noMoreThan_of_le (Int.le_refl 4)
  functionLines := Setting.noMoreThan_of_le (Int.le_refl 50)
  parameters := ⟨_, _, rfl, rfl, le_refl _⟩
  lineLength := Setting.noMoreThan_of_le (Int.le_refl 120)
  fileLines := Setting.noMoreThan_of_le (Int.le_refl 500)

/-- A function that decides once and has two parameters. -/
def choice : Subject :=
  { path := "a.py", source := "def f(a, b): return a if b else b" }

theorem complexity_sublist_choice :
    picky.Tighter calmer
      ∧ ∃ issues issues', (complexity picky).run choice none = .ok issues
        ∧ (complexity calmer).run choice none = .ok issues'
        ∧ issues.length = 2 ∧ issues'.length = 1
        ∧ (issues'.map Issue.essence).Sublist (issues.map Issue.essence) := by
  have hcounts : ((complexity picky).run choice none).toOption.map List.length = some 2
      ∧ ((complexity calmer).run choice none).toOption.map List.length = some 1 := by
    decide +kernel
  obtain ⟨issues, issues', hissues, hissues', hsub⟩ := complexity_sublist picky_tighter choice none
  rw [hissues, hissues'] at hcounts
  exact ⟨picky_tighter, issues, issues', hissues, hissues', Option.some.inj hcounts.1,
    Option.some.inj hcounts.2, hsub⟩

end Analysis

end CodeReview
