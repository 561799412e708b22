import CodeReview.Proofs.Threshold

/-!
# Limits

Lower limits find more. What a source, a line or a function has too much of under some limits it has
too much of under lower ones, and the issue is the same but for its words, which mention the limit:
it has the same type, severity, line and metadata. So the issues under lower limits have those under
higher limits among them, in the same order.

Strict settings have lower limits than the standard ones, and a minimum on top of that: they report
whatever standard settings report except for what is only rated as information.
-/

namespace CodeReview

/-- Two limits of which the first is passed by whatever passes the second. -/
def Setting.AtMost (l l' : Setting Number) : Prop :=
  ∀ n, ∃ past past', l.exceededBy n = .ok past ∧ l'.exceededBy n = .ok past'
    ∧ (past' = true → past = true)

theorem Setting.atMost_of_le {a b : Int} (h : a ≤ b) :
    AtMost (.proper (.int a)) (.proper (.int b)) := by
  intro n
  refine ⟨_, _, rfl, rfl, fun hpast => ?_⟩
  have hb : b < n := of_decide_eq_true hpast
  exact decide_eq_true (Int.lt_of_le_of_lt h hb)

/-- Settings whose limits are all at most those of other settings. -/
structure Settings.Stricter (s s' : Settings) : Prop where
  complexity : s.maxComplexity.AtMost s'.maxComplexity
  nesting : s.maxNesting.AtMost s'.maxNesting
  functionLines : s.maxFunctionLines.AtMost s'.maxFunctionLines
  parameters : s.maxParameters.AtMost s'.maxParameters
  lineLength : s.maxLineLength.AtMost s'.maxLineLength
  fileLines : s.maxFileLines.AtMost s'.maxFileLines

/-- What an issue is but for its words. -/
def Issue.essence (i : Issue) : Text × Rating × Int × Entries Value :=
  (i.type, i.severity, i.line, i.metadata)

namespace Analysis

open Source

/-! ## Finding more -/

/-- Two looks that both succeed, the first of which finds what the second finds, in order, and
perhaps more. -/
def Covers (x x' : Except Failure (List Issue)) : Prop :=
  ∃ issues issues', x = .ok issues ∧ x' = .ok issues'
    ∧ (issues'.map Issue.essence).Sublist (issues.map Issue.essence)

namespace Covers

/-- One issue that is found more readily. -/
theorem sublist_when {past past' : Bool} {i i' : Issue} (hpast : past' = true → past = true)
    (hi : i'.essence = i.essence) :
    ((if past' then [i'] else []).map Issue.essence).Sublist
      ((if past then [i] else []).map Issue.essence) := by
  cases past' with
  | false => exact List.nil_sublist _
  | true =>
    rw [hpast rfl, if_pos rfl, if_pos rfl, List.map_singleton, List.map_singleton, hi]

theorem when {past past' : Bool} {i i' : Issue} (hpast : past' = true → past = true)
    (hi : i'.essence = i.essence) :
    Covers (if past then .ok [i] else .ok []) (if past' then .ok [i'] else .ok []) := by
  refine ⟨if past then [i] else [], if past' then [i'] else [], ?_, ?_, sublist_when hpast hi⟩
  · cases past <;> rfl
  · cases past' <;> rfl

theorem mapM {α : Type} {look look' : α → Except Failure (List Issue)} {as : List α}
    (h : ∀ a ∈ as, Covers (look a) (look' a)) :
    ∃ found found', as.mapM look = .ok found ∧ as.mapM look' = .ok found'
      ∧ (found'.flatten.map Issue.essence).Sublist (found.flatten.map Issue.essence) := by
  induction as with
  | nil => exact ⟨[], [], rfl, rfl, .refl _⟩
  | cons a as ih =>
    obtain ⟨first, first', hfirst, hfirst', hsub⟩ := h a List.mem_cons_self
    obtain ⟨rest, rest', hrest, hrest', hsubs⟩ := ih fun x hx => h x (List.mem_cons_of_mem _ hx)
    refine ⟨first :: rest, first' :: rest', Steps.mapM_cons_ok hfirst hrest,
      Steps.mapM_cons_ok hfirst' hrest', ?_⟩
    rw [List.flatten_cons, List.flatten_cons, List.map_append, List.map_append]
    exact hsub.append hsubs

end Covers

variable {s s' : Settings}

theorem covers_functionIssues (h : s.Stricter s') (path : Text) (node : Node) :
    Covers (functionIssues s path node) (functionIssues s' path node) := by
  unfold functionIssues
  split
  · next span async name params body decorators returns =>
    let node := Node.functionDef span async name params body decorators returns
    obtain ⟨c, c', hc, hc', hcomplex⟩ := h.complexity (cyclomatic true node)
    obtain ⟨d, d', hd, hd', hdeep⟩ := h.nesting (nesting node)
    obtain ⟨l, l', hl, hl', hlong⟩ := h.functionLines (functionLines span body)
    obtain ⟨m, m', hm, hm', hmany⟩ := h.parameters (parameterNames params).length
    -- Every limit can be compared with, so the two looks differ only in what they find to be past.
    simp only [node] at hc hc' hd hd'
    simp only [hc, hc', hd, hd', hl, hl', hm, hm']
    refine ⟨_, _, rfl, rfl, ?_⟩
    simp only [List.map_append]
    refine ((List.Sublist.append ?_ ?_).append ?_).append ?_
    · exact Covers.sublist_when hcomplex rfl
    · exact Covers.sublist_when hdeep rfl
    · exact Covers.sublist_when hlong rfl
    · exact Covers.sublist_when hmany rfl
  · exact ⟨[], [], rfl, rfl, .refl _⟩

theorem covers_lineIssues {limit limit' : Setting Number} (h : limit.AtMost limit') (path : Text)
    (number : Nat) (line : Text) :
    Covers (lineIssues limit path number line) (lineIssues limit' path number line) := by
  obtain ⟨past, past', hpast, hpast', hmore⟩ := h line.length
  have hlong : (past' && !mayBeLong line) = true → (past && !mayBeLong line) = true := by
    simp only [Bool.and_eq_true]
    exact And.imp_left hmore
  unfold lineIssues
  rw [hpast, hpast']
  exact .when hlong rfl

theorem covers_lineLengthIssues {limit limit' : Setting Number} (h : limit.AtMost limit')
    (subject : Subject) :
    Covers (lineLengthIssues limit subject) (lineLengthIssues limit' subject) := by
  obtain ⟨found, found', hfound, hfound', hsub⟩ := Covers.mapM
    fun (p : Nat × Text) (_ : p ∈ subject.numberedLines) =>
      covers_lineIssues h subject.path p.1 p.2
  unfold lineLengthIssues
  rw [hfound, hfound']
  exact ⟨found.flatten, found'.flatten, rfl, rfl, hsub⟩

theorem covers_fileLengthIssues {limit limit' : Setting Number} (h : limit.AtMost limit')
    (subject : Subject) :
    Covers (fileLengthIssues limit subject) (fileLengthIssues limit' subject) := by
  obtain ⟨past, past', hpast, hpast', hmore⟩ := h (Text.lines subject.source).length
  simp only [fileLengthIssues, hpast, hpast']
  exact .when hmore rfl

theorem covers_nodeIssues (h : s.Stricter s') (path : Text) (node : Node) :
    Covers (do return (← functionIssues s path node) ++ classIssues path node)
      (do return (← functionIssues s' path node) ++ classIssues path node) := by
  obtain ⟨found, found', hfound, hfound', hsub⟩ := covers_functionIssues h path node
  rw [hfound, hfound']
  refine ⟨found ++ classIssues path node, found' ++ classIssues path node, rfl, rfl, ?_⟩
  rw [List.map_append, List.map_append]
  exact hsub.append (.refl _)

/-- Lower limits find all that higher limits find. -/
theorem covers_complexityIssues (h : s.Stricter s') (subject : Subject) (tree : Node) :
    Covers (complexityIssues s subject tree) (complexityIssues s' subject tree) := by
  obtain ⟨nodes, nodes', hnodes, hnodes', hsubNodes⟩ := Covers.mapM
    fun (n : Node) (_ : n ∈ tree.walk) => covers_nodeIssues h subject.path n
  obtain ⟨lines, lines', hlines, hlines', hsubLines⟩ := covers_lineLengthIssues h.lineLength subject
  obtain ⟨file, file', hfile, hfile', hsubFile⟩ := covers_fileLengthIssues h.fileLines subject
  unfold complexityIssues
  rw [hnodes, hnodes', hlines, hlines', hfile, hfile']
  refine ⟨nodes.flatten ++ lines ++ file, nodes'.flatten ++ lines' ++ file', rfl, rfl, ?_⟩
  simp only [List.map_append]
  exact (hsubNodes.append hsubLines).append hsubFile

theorem Covers.run {x x' : Except Failure (List Issue)} (h : Covers x x') (s : Settings) :
    ((Reviewer.kept s x').map Issue.essence).Sublist ((Reviewer.kept s x).map Issue.essence) := by
  obtain ⟨issues, issues', rfl, rfl, hsub⟩ := h
  -- What is left out depends on the severity alone, which is part of the essence.
  have hkeep : ∀ issues : List Issue, (Reviewer.keep s issues).map Issue.essence
      = (issues.map Issue.essence).filter fun e =>
          e.2.1.rank ≤ (Rating.ofText s.minSeverity).rank := by
    intro issues
    rw [List.filter_map]
    rfl
  simp only [Reviewer.kept, hkeep]
  exact hsub.filter _

end Analysis

/-! ## Strict settings -/

theorem Settings.strict_stricter : Settings.strict.Stricter .standard where
  complexity := Setting.atMost_of_le (by decide)
  nesting := Setting.atMost_of_le (by decide)
  functionLines := Setting.atMost_of_le (by decide)
  parameters := Setting.atMost_of_le (by decide)
  lineLength := Setting.atMost_of_le (by decide)
  fileLines := Setting.atMost_of_le (by decide)

namespace Reviewer

variable {s s' : Settings}

/-- With one minimum, lower limits leave all that higher limits leave. -/
theorem within_complexity_sublist (h : s.Stricter s') (least : Settings) (subject : Subject) :
    ((within least subject (Analysis.complexity s')).map Issue.essence).Sublist
      ((within least subject (Analysis.complexity s)).map Issue.essence) := by
  simp only [within, Analysis.complexity, Analyzer.onTree]
  cases subject.tree? (Source.treeOf subject.source) with
  | none => exact .refl _
  | some tree => exact (Analysis.covers_complexityIssues h subject tree).run least

theorem flatMap_builtin_sublist (h : s.Stricter s') (least : Settings) (subject : Subject) :
    (((builtin s').flatMap (within least subject)).map Issue.essence).Sublist
      (((builtin s).flatMap (within least subject)).map Issue.essence) := by
  simp only [builtin, List.flatMap_cons, List.map_append]
  exact (within_complexity_sublist h least subject).append (.refl _)

/-- The reviewer with strict settings. -/
def strict : Reviewer :=
  { settings := .strict, analyzers := builtin .strict }

theorem new_strict : Reviewer.new .strict [] = .ok strict :=
  rfl

/-- What the standard settings find, less what is too mild for the strict ones. -/
theorem keep_strict_standard (source path : Text) :
    keep .strict (standard.reviewSource source path).result.issues
      = (builtin .standard).flatMap (within .strict { path, source }) := by
  rw [result_reviewSource]
  change keep .strict ((builtin .standard).flatMap _) = _
  rw [keep_flatMap]
  apply List.flatMap_congr
  intro a _
  simp only [within]
  cases a.run { path, source } (Source.treeOf source) with
  | error f => rfl
  | ok issues => exact congrArg (keep .strict) (keep_info .standard issues)

/-- Strict settings report whatever standard settings report, as bad and on the same line, except
for what is only rated as information. Of that they report nothing. -/
theorem strict_reports_standard (source path : Text) :
    ∃ r r', Reviewer.new .standard [] = .ok r ∧ Reviewer.new .strict [] = .ok r'
      ∧ (∀ i ∈ (r.reviewSource source path).result.issues, i.AtLeast .low →
          ∃ j ∈ (r'.reviewSource source path).result.issues,
            j.type = i.type ∧ j.line = i.line ∧ j.severity = i.severity)
      ∧ ∀ j ∈ (r'.reviewSource source path).result.issues, j.AtLeast .low := by
  have hrated := rated_of_mem_reviewSource (r := standard) (fun a ha => ha) source path
  have hrated' := rated_of_mem_reviewSource (r := strict) (fun a ha => ha) source path
  have hsub := flatMap_builtin_sublist Settings.strict_stricter .strict { path, source }
  have hissues : (strict.reviewSource source path).result.issues
      = (builtin .strict).flatMap (within .strict { path, source }) := by
    rw [result_reviewSource]
    rfl
  refine ⟨standard, strict, new_standard, new_strict, ?_, ?_⟩
  · intro i hi hlow
    -- With the strict minimum on both sides only the limits differ, and these only add.
    have hkept := (mem_keep (s := .strict) (l := .low) rfl hrated).mpr ⟨hi, hlow⟩
    rw [keep_strict_standard] at hkept
    rw [hissues]
    obtain ⟨j, hj, hessence⟩ := List.mem_map.mp (hsub.subset (List.mem_map_of_mem hkept))
    simp only [Issue.essence, Prod.mk.injEq] at hessence
    exact ⟨j, hj, hessence.1, hessence.2.2.1, hessence.2.1⟩
  · intro j hj
    rw [← keep_issues] at hj
    exact ((mem_keep (l := .low) rfl hrated').mp hj).2

/-- A mark for work to be done is shown by standard settings and not by strict ones. -/
theorem strict_hides_information :
    ¬ ∀ i ∈ (standard.reviewSource untidy "a.py").result.issues,
      ∃ j ∈ (strict.reviewSource untidy "a.py").result.issues,
        j.type = i.type ∧ j.line = i.line := by
  decide +kernel

end Reviewer

end CodeReview
