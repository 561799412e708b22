import CodeReview.Proofs.Tallies
import CodeReview.Proofs.Tidying
import CodeReview.Rules.Standard

/-!
# Runs of blank lines

The rule about blank lines goes through a source line by line with a counter. At every line the
counter is the length of the run of blank lines that ends there (`crowdedBlanks_eq`). So the rule
reports the blank lines right after two others, which are all lines of a run but its first two.
-/

namespace CodeReview.Rules

open Text

variable {ls before run after : List Text} {n k : Nat}

/-- The line of a number, counted from one, is there and is blank. -/
def BlankAt (ls : List Text) (n : Nat) : Prop :=
  ∃ l, ls[n - 1]? = some l ∧ allBlank l = true

/-- A run of blank lines that no line before or after it makes longer. -/
structure IsRun (ls before run after : List Text) : Prop where
  parts : before ++ (run ++ after) = ls
  blank : ∀ l ∈ run, allBlank l = true
  starts : ∀ l, before.getLast? = some l → allBlank l = false
  stops : ∀ l, after.head? = some l → allBlank l = false

/-! ## The counter -/

/-- How many blank lines some lines end with. -/
def endRun (ls : List Text) : Nat :=
  (ls.rtakeWhile allBlank).length

/-- The numbers of the lines at which a run has come to more than two lines. -/
def crowded (ls : List Text) : List Nat :=
  (List.range' 1 ls.length).filter fun n => 2 < endRun (ls.take n)

theorem endRun_concat (ls : List Text) (l : Text) :
    endRun (ls ++ [l]) = if allBlank l then endRun ls + 1 else 0 := by
  unfold endRun
  rw [List.rtakeWhile_concat, apply_ite List.length, List.length_append]
  rfl

theorem endRun_take_succ {l : Text} (h : ls[n]? = some l) :
    endRun (ls.take (n + 1)) = if allBlank l then endRun (ls.take n) + 1 else 0 := by
  rw [List.take_add_one, h]
  exact endRun_concat _ l

/-- With the run that the lines before end with as the counter, the scan reports the rest of what is
crowded in all of the lines. -/
theorem crowdedBlanks_eq (before ls : List Text) :
    crowdedBlanks (endRun before) ((ls.zipIdx before.length).map fun p => (p.2 + 1, p.1))
      = (List.range' (before.length + 1) ls.length).filter
        fun n => 2 < endRun ((before ++ ls).take n) := by
  induction ls generalizing before with
  | nil => rfl
  | cons l ls ih =>
    -- The line goes over to the lines before, and the counter stays what they end with.
    have hrest := ih (before ++ [l])
    rw [List.append_assoc, List.singleton_append, List.length_append, List.length_singleton,
      endRun_concat] at hrest
    rw [List.zipIdx_cons, List.map_cons, crowdedBlanks, List.length_cons, List.range'_succ,
      List.filter_cons, List.take_length_add_append, List.take_succ_cons, List.take_zero,
      endRun_concat]
    by_cases hl : allBlank l = true
    · have hstrip : (strip l).isEmpty = true := List.isEmpty_iff.mpr ((strip_eq_nil_iff l).mpr hl)
      simp only [if_pos hl, if_pos hstrip, decide_eq_true_iff] at hrest ⊢
      rw [hrest]
    · have hstrip : ¬ (strip l).isEmpty = true := by rwa [List.isEmpty_iff, strip_eq_nil_iff]
      simp only [if_neg hl, if_neg hstrip] at hrest ⊢
      exact hrest

theorem succ_le_endRun_iff (h : n < ls.length) :
    k + 1 ≤ endRun (ls.take (n + 1)) ↔ BlankAt ls (n + 1) ∧ k ≤ endRun (ls.take n) := by
  have hget := List.getElem?_eq_getElem h
  rw [endRun_take_succ hget, BlankAt, Nat.add_sub_cancel, hget]
  by_cases hl : allBlank ls[n] = true
  · simp [hl]
  · simp [hl]

theorem mem_crowded : n ∈ crowded ls ↔ (1 ≤ n ∧ n ≤ ls.length) ∧ 2 < endRun (ls.take n) := by
  rw [crowded, List.mem_filter, List.mem_range'_1, decide_eq_true_iff, Nat.add_comm,
    Nat.lt_succ_iff]

/-- A line is crowded if it is blank and so are the two lines before it. -/
theorem mem_crowded_iff :
    n ∈ crowded ls ↔ 3 ≤ n ∧ BlankAt ls (n - 2) ∧ BlankAt ls (n - 1) ∧ BlankAt ls n := by
  rw [mem_crowded]
  by_cases hn : 3 ≤ n ∧ n ≤ ls.length
  · obtain ⟨m, rfl⟩ := Nat.exists_eq_add_of_le' hn.1
    -- The counter is followed back over the three lines.
    rw [Nat.lt_iff_add_one_le (m := 2), succ_le_endRun_iff hn.2, succ_le_endRun_iff (by omega),
      succ_le_endRun_iff (by omega)]
    simp [hn, and_comm, and_assoc]
  · have hle : endRun (ls.take n) ≤ n :=
      (List.rtakeWhile_suffix ..).length_le.trans (List.length_take_le ..)
    constructor
    · omega
    · rintro ⟨hthree, -, -, l, hl, -⟩
      have := (List.getElem?_eq_some_iff.mp hl).1
      omega

/-! ## Runs -/

/-- Within a run the counter is the number of lines of the run. -/
theorem IsRun.endRun_take (h : IsRun ls before run after) (hk : k ≤ run.length) :
    endRun (ls.take (before.length + k)) = k := by
  obtain rfl := h.parts
  induction k with
  | zero =>
    rw [Nat.add_zero, List.take_left, endRun, List.length_eq_zero_iff, List.rtakeWhile_eq_nil_iff]
    intro hne
    rw [h.starts _ (List.getLast?_eq_some_getLast hne)]
    exact Bool.false_ne_true
  | succ k ih =>
    have hget : (before ++ (run ++ after))[before.length + k]? = some run[k] := by
      rw [List.getElem?_append_right (Nat.le_add_right ..), Nat.add_sub_cancel_left,
        List.getElem?_append_left hk, List.getElem?_eq_getElem hk]
    rw [← Nat.add_assoc, endRun_take_succ hget, if_pos (h.blank _ (List.getElem_mem _)),
      ih (Nat.le_of_succ_le hk)]

theorem IsRun.countP_crowded (h : IsRun ls before run after) :
    (crowded ls).countP (fun n => before.length < n ∧ n ≤ before.length + run.length)
      = run.length - 2 := by
  have hlength : before.length + (run.length + after.length) = ls.length := by
    rw [← h.parts, List.length_append, List.length_append]
  -- The crowded lines of the run are its lines from the third on.
  have hlines : ((crowded ls).filter fun n =>
      before.length < n ∧ n ≤ before.length + run.length).Perm
        (List.range' (before.length + 3) (run.length - 2)) := by
    refine (List.perm_ext_iff_of_nodup ((List.nodup_range' ..).filter _ |>.filter _)
      (List.nodup_range' ..)).mpr fun n => ?_
    rw [List.mem_filter, ← crowded, mem_crowded, List.mem_range'_1, decide_eq_true_iff]
    by_cases hn : before.length < n ∧ n ≤ before.length + run.length
    · obtain ⟨k, rfl⟩ := Nat.exists_eq_add_of_le hn.1.le
      rw [h.endRun_take (by omega)]
      omega
    · omega
  rw [List.countP_eq_length_filter, hlines.length_eq, List.length_range']

/-- The run that a crowded line is part of reaches from the counter's start to the next line that is
not blank. -/
theorem exists_isRun_of_mem_crowded (h : n ∈ crowded ls) :
    ∃ before run after, IsRun ls before run after
      ∧ before.length < n ∧ n ≤ before.length + run.length := by
  obtain ⟨⟨-, hn⟩, hrun⟩ := mem_crowded.mp h
  have hlength := congrArg List.length
    (List.rdropWhile_append_rtakeWhile (p := allBlank) (l := ls.take n))
  rw [List.length_append, List.length_take_of_le hn] at hlength
  refine ⟨(ls.take n).rdropWhile allBlank,
    (ls.take n).rtakeWhile allBlank ++ (ls.drop n).takeWhile allBlank,
    (ls.drop n).dropWhile allBlank, ⟨?_, ?_, ?_, ?_⟩, ?_, ?_⟩
  · rw [List.append_assoc, List.takeWhile_append_dropWhile, ← List.append_assoc,
      List.rdropWhile_append_rtakeWhile, List.take_append_drop]
  · rw [List.forall_mem_append]
    exact ⟨fun l => List.mem_rtakeWhile_imp, fun l => List.mem_takeWhile_imp⟩
  · exact fun l => eq_false_of_getLast?_rdropWhile
  · intro l hl
    have hnot := List.head?_dropWhile_not allBlank (ls.drop n)
    rwa [hl] at hnot
  · rw [endRun] at hrun
    omega
  · rw [List.length_append]
    omega

/-! ## The rule -/

theorem id_of_lineRule {id name description category pattern message suggestion : Text}
    {severity : Severity} {tags : List Text} {r : Rule}
    (h : lineRule id name description severity category pattern message suggestion tags = some r) :
    r.id = id := by
  unfold lineRule Draft.pattern at h
  dsimp only at h
  split at h
  · cases h
    rfl
  all_goals cases h

theorem exists_blankLines (config : Entries Value) (s : Subject) (given : Option Source.Node) :
    ∃ rule, (style config).get? "style/blank-lines" = some rule
      ∧ rule.check s given = .ok (blankLines s) := by
  unfold style RuleSet.get?
  dsimp only
  -- The rules before it have other names.
  rw [List.find?_append, List.find?_eq_none.mpr, Option.none_or]
  · exact ⟨_, List.find?_cons_of_pos (decide_eq_true rfl), rfl⟩
  · simp only [List.forall_mem_append, List.forall_mem_singleton, decide_eq_true_iff]
    refine ⟨by decide +kernel, fun r hr => ?_⟩
    rw [id_of_lineRule (Option.mem_toList.mp hr)]
    decide +kernel

/-- In every source the rule reports, in increasing order, the lines that are blank and have two
blank lines right before them. So every run of blank lines is reported as often as it has lines
beyond two, and nothing is reported outside of the runs. -/
theorem crowded_lines_reported (config : Entries Value) (path source : Text)
    (given : Option Source.Node) :
    ∃ (rule : Rule) (issues : List Issue) (numbers : List Nat),
      (style config).get? "style/blank-lines" = some rule
        ∧ rule.check ⟨path, source⟩ given = .ok issues
        ∧ issues.map Issue.line = numbers.map Int.ofNat
        ∧ numbers.Pairwise (· < ·)
        ∧ (∀ n, n ∈ numbers ↔ 3 ≤ n ∧ BlankAt (lines source) (n - 2)
          ∧ BlankAt (lines source) (n - 1) ∧ BlankAt (lines source) n)
        ∧ (∀ before run after, IsRun (lines source) before run after →
          issues.countP (fun i : Issue =>
            before.length < i.line ∧ i.line ≤ before.length + run.length) = run.length - 2)
        ∧ ∀ n ∈ numbers, ∃ before run after, IsRun (lines source) before run after
          ∧ before.length < n ∧ n ≤ before.length + run.length := by
  obtain ⟨rule, hrule, hcheck⟩ := exists_blankLines config ⟨path, source⟩ given
  have hnumbers : crowdedBlanks 0 (Subject.numberedLines ⟨path, source⟩) = crowded (lines source) :=
    crowdedBlanks_eq [] (lines source)
  refine ⟨rule, _, crowded (lines source), hrule, hcheck, ?_, (List.pairwise_lt_range' ..).filter _,
    fun n => mem_crowded_iff, fun before run after h => ?_,
    fun n h => exists_isRun_of_mem_crowded h⟩
  · rw [blankLines, hnumbers, List.map_map]
    rfl
  · rw [blankLines, hnumbers, List.countP_map, ← h.countP_crowded]
    apply List.countP_congr
    intro n _
    simp only [Function.comp_apply, decide_eq_true_iff]
    omega

example : crowdedBlanks 0 (Subject.numberedLines ⟨[], "\n\t\n\n \nx\n\n".toList⟩) = [3, 4] := by
  decide +kernel

end CodeReview.Rules
