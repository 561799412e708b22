import CodeReview.Proofs.Summary
import Mathlib.Algebra.Order.BigOperators.Group.List

/-!
# Scores

The score of a review of many files is the score of all issues that count. It can also be had from
the scores of the files: every file takes off what is missing from its own score, and cutting off at
zero file by file is the same as cutting off once at the end.
-/

namespace CodeReview

open Reviewer

/-! ## Deductions -/

theorem Rating.deduction_nonneg (r : Rating) : 0 ≤ r.deduction := by
  cases r with
  | level s => cases s <;> decide
  | other t => exact le_rfl

theorem deductions_eq_sum (issues : List Issue) :
    deductions issues = (issues.map fun i => i.severity.deduction).sum := by
  rw [List.sum_eq_foldr, List.foldr_map, deductions]

theorem deductions_nonneg (issues : List Issue) : 0 ≤ deductions issues := by
  rw [deductions_eq_sum]
  apply List.sum_nonneg
  intro d hd
  obtain ⟨i, _, rfl⟩ := List.mem_map.mp hd
  exact i.severity.deduction_nonneg

theorem deductions_cons (i : Issue) (issues : List Issue) :
    deductions (i :: issues) = i.severity.deduction + deductions issues := by
  rw [deductions, List.foldr_cons, deductions]

theorem deductions_append (as bs : List Issue) :
    deductions (as ++ bs) = deductions as + deductions bs := by
  rw [deductions_eq_sum, List.map_append, List.sum_append, deductions_eq_sum, deductions_eq_sum]

theorem deductions_perm {as bs : List Issue} (h : as.Perm bs) :
    deductions as = deductions bs := by
  rw [deductions_eq_sum, deductions_eq_sum, (h.map _).sum_eq]

theorem deductions_found (files : List FileResult) :
    deductions (found files) = ((counted files).map fun f => deductions f.issues).sum := by
  rw [found]
  induction counted files with
  | nil => rfl
  | cons f fs ih => rw [List.flatMap_cons, deductions_append, ih, List.map_cons, List.sum_cons]

/-! ## Cutting off -/

theorem clampScore_bounds (n : Int) : 0 ≤ clampScore n ∧ clampScore n ≤ 100 := by
  unfold clampScore
  omega

theorem clampScore_mono {m n : Int} (h : m ≤ n) : clampScore m ≤ clampScore n := by
  unfold clampScore
  omega

/-- Below a hundred points, what is missing from a score is what was taken off. -/
theorem missing_eq_min {d : Int} (h : 0 ≤ d) : 100 - clampScore (100 - d) = min 100 d := by
  unfold clampScore
  omega

/-- A hundred points are used up by parts exactly if they are used up by parts that are cut off at
a hundred. -/
theorem min_sum_eq (ds : List Int) (h : ∀ d ∈ ds, 0 ≤ d) :
    min 100 ds.sum = min 100 (ds.map (min 100)).sum := by
  have hnonneg : ∀ ds : List Int, (∀ d ∈ ds, 0 ≤ d) → 0 ≤ (ds.map (min 100)).sum := by
    intro ds h
    apply List.sum_nonneg
    intro m hm
    obtain ⟨d, hd, rfl⟩ := List.mem_map.mp hm
    exact le_min (by decide) (h d hd)
  induction ds with
  | nil => rfl
  | cons d ds ih =>
    have hd : 0 ≤ d := h d List.mem_cons_self
    have hrest : ∀ x ∈ ds, 0 ≤ x := fun x hx => h x (List.mem_cons_of_mem _ hx)
    have hcut : min 100 ds.sum = min 100 (ds.map (min 100)).sum := ih hrest
    have hsum : 0 ≤ ds.sum := List.sum_nonneg hrest
    have hmin : 0 ≤ (ds.map (min 100)).sum := hnonneg ds hrest
    rw [List.map_cons, List.sum_cons, List.sum_cons]
    omega

/-! ## The score of a review -/

namespace Reviewer

theorem deduction_of_name {i : Issue} (h : i.Rated) :
    (Rating.ofText i.severity.toText).deduction = i.severity.deduction := by
  obtain ⟨s, hs⟩ := h
  rw [hs, Rating.toText, Rating.ofText, Severity.ofText?_toText]

/-- The counts by severity weigh what the issues weigh. -/
theorem deductions_bySeverity {files : List FileResult} (h : ∀ i ∈ found files, i.Rated)
    (now : Text) :
    ((summary now files).bySeverity.map ReviewResult.deductionFor).sum
      = deductions (found files) := by
  have hweigh := Entries.sum_map_tally (fun name => (Rating.ofText name).deduction)
    ((found files).map (·.severity.toText))
  rw [List.map_map] at hweigh
  rw [deductions_eq_sum, ← List.map_congr_left fun i hi => deduction_of_name (h i hi)]
  exact hweigh

theorem score_summary {files : List FileResult} (h : ∀ i ∈ found files, i.Rated) (now : Text) :
    (summary now files).score = clampScore (100 - deductions (found files)) := by
  rw [← deductions_bySeverity h now, List.sum_eq_foldr, List.foldr_map, ReviewResult.score]

theorem score_summary_of_files {files : List FileResult} (h : ∀ i ∈ found files, i.Rated)
    (now : Text) : (summary now files).score
      = max 0 (100 - ((counted files).map fun f => 100 - f.score).sum) := by
  have hmissing : ((counted files).map fun f => 100 - f.score)
      = ((counted files).map fun f => deductions f.issues).map (min 100) := by
    rw [List.map_map]
    exact List.map_congr_left fun f _ => missing_eq_min (deductions_nonneg f.issues)
  have hnonneg : ∀ d ∈ (counted files).map fun f => deductions f.issues, 0 ≤ d := by
    intro d hd
    obtain ⟨f, _, rfl⟩ := List.mem_map.mp hd
    exact deductions_nonneg f.issues
  -- Both sides are a hundred less what is taken off, cut off at a hundred.
  have hcut := min_sum_eq _ hnonneg
  have htotal : 0 ≤ deductions (found files) := deductions_nonneg _
  rw [score_summary h, hmissing, clampScore]
  rw [← deductions_found] at hcut
  omega

end Reviewer

/-! ## More issues and more files -/

/-- One more issue in a file, or one more file, anywhere in a list. -/
inductive Grows : List FileResult → List FileResult → Prop
  | issue (before after : List FileResult) (f : FileResult) (front back : List Issue) (i : Issue)
      (h : f.issues = front ++ back) :
      Grows (before ++ f :: after) (before ++ { f with issues := front ++ i :: back } :: after)
  | file (before after : List FileResult) (f : FileResult) :
      Grows (before ++ after) (before ++ f :: after)

namespace Reviewer

theorem found_append (as bs : List FileResult) : found (as ++ bs) = found as ++ found bs := by
  rw [found, counted, List.filter_append, List.flatMap_append]
  rfl

theorem found_cons (f : FileResult) (fs : List FileResult) :
    found (f :: fs) = (if f.skipped then [] else f.issues) ++ found fs := by
  rw [found, counted, List.filter_cons]
  cases f.skipped <;> rfl

theorem deductions_of_grows {files more : List FileResult} (h : Grows files more) :
    deductions (found files) ≤ deductions (found more) := by
  cases h with
  | issue before after f front back i hissues =>
    have hi := i.severity.deduction_nonneg
    simp only [found_append, found_cons, deductions_append]
    cases f.skipped with
    | true => exact le_rfl
    | false =>
      simp only [Bool.false_eq_true, if_false, hissues, deductions_append, deductions_cons]
      omega
  | file before after f =>
    have hf : 0 ≤ deductions (if f.skipped then [] else f.issues) := deductions_nonneg _
    simp only [found_append, found_cons, deductions_append]
    omega

/-- The score of a review is that of all its issues and can be told from the scores of its files;
more issues or more files never make it better. -/
theorem score_aggregate (now : Text) (files : List FileResult) (h : ∀ f ∈ files, f.Rated) :
    ∃ r, aggregate now files = .ok r
      ∧ r.score = scoreOf (found files) none
      ∧ r.score = max 0 (100 - ((counted files).map fun f => 100 - f.score).sum)
      ∧ (∀ f, counted files = [f] → r.score = f.score)
      ∧ 0 ≤ r.score ∧ r.score ≤ 100
      ∧ ∀ (later : Text) (more : List FileResult), Grows files more → (∀ f ∈ more, f.Rated) →
        ∃ r', aggregate later more = .ok r' ∧ r'.score ≤ r.score := by
  have hfound := rated_of_mem_found h
  have hscore := score_summary hfound now
  refine ⟨summary now files, aggregate_of_rated now hfound, ?_, score_summary_of_files hfound now,
    ?_, ?_, ?_, ?_⟩
  · rw [hscore, scoreOf, Option.map_none, Option.getD_none, sub_zero]
  · intro f hf
    rw [hscore, found, hf, List.flatMap_singleton, FileResult.score]
  · exact hscore ▸ (clampScore_bounds _).1
  · exact hscore ▸ (clampScore_bounds _).2
  · intro later more hgrows hmore
    have hfound' := rated_of_mem_found hmore
    refine ⟨summary later more, aggregate_of_rated later hfound', ?_⟩
    rw [hscore, score_summary hfound']
    exact clampScore_mono (Int.sub_le_sub_left (deductions_of_grows hgrows) 100)

theorem score_aggregate_someFiles :
    (∀ f ∈ someFiles, f.Rated)
      ∧ ∃ r, aggregate [] someFiles = .ok r ∧ r.score = 81
        ∧ Grows someFiles ({ file := "d.py" } :: someFiles)
        ∧ ∃ r', aggregate [] ({ file := "d.py" } :: someFiles) = .ok r' ∧ r'.score ≤ 81 := by
  obtain ⟨r, hr, hscore, _, _, _, _, hmore⟩ := score_aggregate [] someFiles someFiles_rated
  have h81 : r.score = 81 := hscore.trans (by decide)
  have hgrows : Grows someFiles ({ file := "d.py" } :: someFiles) := .file [] someFiles _
  have hrated : ∀ f ∈ { file := "d.py" } :: someFiles, f.Rated := by
    intro f hf
    rcases List.mem_cons.mp hf with rfl | hin
    · exact fun i hi => absurd hi List.not_mem_nil
    · exact someFiles_rated f hin
  obtain ⟨r', hr', hle⟩ := hmore [] _ hgrows hrated
  exact ⟨someFiles_rated, r, hr, h81, hgrows, r', hr', h81 ▸ hle⟩

end Reviewer

end CodeReview
