import CodeReview.Proofs.Grammar.Statement
import CodeReview.Proofs.Scanning
import CodeReview.Proofs.Threshold

/-!
# The lines that issues stand on

A source is read with every carriage return as the end of a line, but its lines are counted by line
feeds alone. So the nodes of its tree, and with them the issues, stand on lines that are counted,
or beyond the last one by at most as many lines as there are carriage returns without a line feed.
-/

namespace CodeReview

open Source Placed

/-! ## Lines and line ends -/

theorem Text.length_lines (t : Text) : (Text.lines t).length = breaks t + 1 := by
  induction t with
  | nil => rfl
  | cons c t ih =>
    rw [lines, breaks_cons]
    by_cases hc : c = '\n'
    · rw [if_pos hc, if_pos hc, List.length_cons, ih]
    · rw [if_neg hc, if_neg hc, Nat.add_zero]
      -- There is a line to put the character on.
      cases hl : lines t with
      | nil => simp [hl] at ih
      | cons l ls =>
        rw [hl] at ih
        exact ih

namespace Source

/-- How many carriage returns are not followed by a line feed. -/
def loneReturns : Text → Nat
  | [] => 0
  | c :: rest => (if c = '\x0d' ∧ rest.head? ≠ some '\n' then 1 else 0) + loneReturns rest

theorem breaks_unifyLines (t : Text) :
    breaks (Token.unifyLines t) = breaks t + loneReturns t := by
  have hreturn : ¬ '\x0d' = '\n' := by decide
  fun_induction Token.unifyLines t with
  | case1 => rfl
  | case2 rest ih =>
    -- The pair is one line end before and after.
    have hpair : loneReturns ('\x0d' :: '\n' :: rest) = loneReturns rest := by simp [loneReturns]
    rw [breaks_cons, breaks_cons, breaks_cons, hpair, ih, if_neg hreturn]
    omega
  | case3 rest hrest ih =>
    have hhead : rest.head? ≠ some '\n' := by
      intro hhead
      obtain ⟨more, rfl⟩ := List.head?_eq_some_iff.mp hhead
      exact hrest more rfl
    have hlone : loneReturns ('\x0d' :: rest) = 1 + loneReturns rest := by
      simp [loneReturns, hhead]
    rw [breaks_cons, breaks_cons, hlone, ih, if_neg hreturn, if_pos rfl]
    omega
  | case4 c rest _ hc ih =>
    have hother : loneReturns (c :: rest) = loneReturns rest := by
      rw [loneReturns, if_neg fun h => hc h.1, Nat.zero_add]
    rw [breaks_cons, breaks_cons, hother, ih]
    omega

/-- The lines of a source as it is read. -/
def extent (source : Text) : Nat :=
  (Text.lines source).length + loneReturns source

theorem within_parseTree {source : Text} {tree : Node} (h : parseTree source = .ok tree) :
    Within (extent source) tree := by
  refine Parser.within_of_run (Token.within_scanAt ?_ ?_) h
  · exact Nat.le_refl 1
  · rw [breaks_unifyLines, extent, Text.length_lines]
    omega

/-- The tree of a source is within the lines that the source is read with. -/
theorem within_treeOf {source : Text} {tree : Node} (h : treeOf source = some tree) :
    Within (extent source) tree := by
  unfold treeOf parse at h
  split at h
  · cases h
  split at h
  · next n hn =>
    cases h
    exact within_parseTree hn
  · cases h

end Source

/-! ## The places of issues -/

instance : Placed Issue := ⟨fun N i => 1 ≤ i.line ∧ i.line ≤ N⟩

namespace Analysis

variable {N : Nat} {subject : Subject} {node tree : Node}

theorem within_boundNames (hn : Within N node) : ∀ e ∈ boundNames node, 1 ≤ e.2 ∧ e.2 ≤ N := by
  intro e he
  unfold boundNames at he
  split at he
  · next span names =>
    have hspan : Within N (some span) := Node.within_span? hn
    obtain ⟨name, _, hname⟩ := List.mem_filterMap.mp he
    split at hname
    · cases hname
      exact hspan
    · cases hname
  · next span _ names _ =>
    have hspan : Within N (some span) := Node.within_span? hn
    obtain ⟨name, _, hname⟩ := List.mem_filterMap.mp he
    split at hname
    · split at hname
      · cases hname
      · cases hname
        exact hspan
    · cases hname
  · cases he

theorem within_assignedNames (hn : Within N node) :
    ∀ e ∈ assignedNames node, 1 ≤ e.2 ∧ e.2 ≤ N := by
  intro e he
  unfold assignedNames at he
  split at he
  · next targets value =>
    obtain ⟨target, htarget, hname⟩ := List.mem_filterMap.mp he
    have hin : Within N target :=
      (Node.within_children hn).of_mem (List.mem_append_left [value] htarget)
    split at hname
    · split at hname
      · cases hname
      · next span _ _ _ =>
        cases hname
        exact Node.within_span? hin
    · cases hname
  · cases he

theorem mem_numberedLines {p : Nat × Text} (h : p ∈ subject.numberedLines) :
    1 ≤ p.1 ∧ p.1 ≤ (Text.lines subject.source).length := by
  obtain ⟨q, hq, rfl⟩ := List.mem_map.mp h
  have hlast := (List.mem_zipIdx hq).2.1
  dsimp only
  omega

theorem Place.within (hN : (Text.lines subject.source).length ≤ N) (ht : Within N tree) {line : Int}
    (h : Place subject tree line) : 1 ≤ line ∧ line ≤ N := by
  cases h with
  | node hn hspan =>
    have hline := Node.line_mem ((Node.within_walk ht).of_mem hn) hspan
    omega
  | below hp hspan =>
    have hline := Node.line_mem ((Node.within_walkWithParent ht).of_mem hp).2 hspan
    omega
  | line hp =>
    have hline := mem_numberedLines hp
    omega
  | bound hn he =>
    have hline := within_boundNames ((Node.within_walk ht).of_mem hn) _ he
    omega
  | assigned hn hm he =>
    have hin := Node.within_walk ((Node.within_walk ht).of_mem hn)
    have hline := within_assignedNames (hin.of_mem hm) _ he
    omega
  | first =>
    rw [Text.length_lines] at hN
    omega

end Analysis

namespace Reviewer

/-- The analyzers of the library find nothing outside the lines that a source is read with. -/
theorem within_of_mem_builtin {s : Settings} {a : Analyzer} (ha : a ∈ builtin s)
    {source path : Text} {issues : List Issue}
    (h : a.run { path, source } (treeOf source) = .ok issues) : Within (extent source) issues := by
  rw [within_iff_forall]
  intro i hi
  obtain ⟨tree, htree, hfound⟩ := found_of_mem_builtin ha h i hi
  -- Whoever reads the tree that is looked at, it is the tree of the source.
  rw [Subject.tree?_treeOf] at htree
  exact hfound.place.within (Nat.le_add_right ..) (within_treeOf htree)

/-- Nothing that a reviewer with the analyzers of the library reports stands outside the lines that
the source is read with. -/
theorem within_reviewSource {r : Reviewer} {s : Settings} (h : ∀ a ∈ r.analyzers, a ∈ builtin s)
    (source path : Text) : Within (extent source) (r.reviewSource source path).result.issues := by
  rw [within_iff_forall, result_reviewSource]
  intro i hi
  obtain ⟨a, ha, hin⟩ := List.mem_flatMap.mp hi
  rw [within] at hin
  cases hrun : a.run { path, source } (treeOf source) with
  | error f =>
    rw [hrun] at hin
    exact absurd hin List.not_mem_nil
  | ok issues =>
    rw [hrun] at hin
    exact (within_of_mem_builtin (h a ha) hrun).of_mem (List.mem_of_mem_filter hin)

theorem mem_builtin_of_new {s : Settings} {r : Reviewer} (h : Reviewer.new s [] = .ok r) :
    ∀ a ∈ r.analyzers, a ∈ builtin s := by
  rcases new_eq s with hnew | ⟨v, _, hnone⟩
  · obtain rfl := Except.ok.inj ((hnew []).symm.trans h)
    intro a ha
    have hchosen : a ∈ chosen s [] := ha
    rw [chosen, List.filterMap_nil, List.append_nil] at hchosen
    exact List.mem_of_mem_filter hchosen
  · exact absurd ((hnone []).symm.trans h) (by simp)

/-- Every issue stands on a line of the source, as far as lines end with line feeds. A carriage
return without a line feed ends a line as well, but such lines are not counted; an issue may stand
beyond the last line that is counted by as many lines as there are such carriage returns. -/
theorem issues_on_lines {s : Settings} {r : Reviewer} (h : Reviewer.new s [] = .ok r)
    (source path : Text) :
    ∃ m, (r.reviewSource source path).result.metrics = some m
      ∧ m.totalLines = .int (Text.lines source).length
      ∧ ∀ i ∈ (r.reviewSource source path).result.issues,
        1 ≤ i.line ∧ i.line ≤ (Text.lines source).length + loneReturns source := by
  refine ⟨_, rfl, rfl, ?_⟩
  intro i hi
  obtain ⟨hfirst, hlast⟩ := (within_reviewSource (mem_builtin_of_new h) source path).of_mem hi
  rw [extent, Int.natCast_add] at hlast
  exact ⟨hfirst, hlast⟩

/-- An import, a mark for work to be done and a call, on lines that end in different ways. -/
def mixedEnds : Text :=
  "import os\r\n\r# TODO\r\nprint(eval(x))"

theorem lines_mixedEnds :
    (standard.reviewSource mixedEnds "a.py").result.issues.map (·.line) = [4, 2, 1, 4] := by
  decide +kernel

/-- The last issue stands on the fourth line, of three that are counted. -/
theorem issues_on_lines_mixedEnds :
    Reviewer.new .standard [] = .ok standard
      ∧ (standard.reviewSource mixedEnds "a.py").result.issues.map (·.line) = [4, 2, 1, 4]
      ∧ (Text.lines mixedEnds).length = 3
      ∧ loneReturns mixedEnds = 1
      ∧ ∀ i ∈ (standard.reviewSource mixedEnds "a.py").result.issues, 1 ≤ i.line ∧ i.line ≤ 4 := by
  obtain ⟨_, _, _, hlines⟩ := issues_on_lines new_standard mixedEnds "a.py"
  exact ⟨new_standard, lines_mixedEnds, by decide, by decide, hlines⟩

/-- A source of one line, as lines are counted, with an issue on its second line. -/
theorem issue_beyond_lines :
    ∃ m, (standard.reviewSource "\reval(x)" "<string>").result.metrics = some m
      ∧ m.totalLines = .int 1
      ∧ (standard.reviewSource "\reval(x)" "<string>").result.issues.map (·.line) = [2] :=
  ⟨_, rfl, rfl, by decide +kernel⟩

end Reviewer

end CodeReview
