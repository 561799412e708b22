import CodeReview.Proofs.Threshold

/-!
# Sources that cannot be read

The analyzers of the library look at the tree of a source. A text that is no source has no tree, and
what they find in it is nothing at all, not even on lines that could be looked at alone. A review
does not tell the two apart: the text of an error is never set, so a text that cannot be read is
reviewed as well as one without a flaw. What does tell is an issue, a function or a class: there is
one only in a source that was read.
-/

namespace CodeReview

namespace Source

/-- The text is read as a tree. -/
def Accepts (source : Text) : Prop :=
  ∃ tree, parse source = .tree tree

theorem treeOf_eq_none_iff {source : Text} : treeOf source = none ↔ ¬ Accepts source := by
  unfold treeOf Accepts
  cases parse source with
  | tree n => simp [Parsed.tree?]
  | faulty d => simp [Parsed.tree?]
  | unreadable => simp [Parsed.tree?]

end Source

/-- What there is to count in a text that cannot be read. -/
def Metrics.ofLines (source : Text) : Metrics :=
  let counts := Source.countLines source none
  { linesOfCode := .int counts.code
    totalLines := counts.total
    blankLines := counts.blank
    commentLines := counts.comments
    functions := 0
    classes := 0
    avgComplexity := 0
    maxComplexity := 0 }

theorem Analysis.measure_none (assertions : Bool) (source : Text) :
    measure assertions source none = .ofLines source :=
  rfl

namespace Reviewer

variable {r : Reviewer} {s : Settings} {source : Text}

/-- No analyzer of the library finds anything in a text that cannot be read. -/
theorem run_of_not_accepts {a : Analyzer} (ha : a ∈ builtin s) (h : ¬ Source.Accepts source)
    (path : Text) : a.run { path, source } (Source.treeOf source) = .ok [] := by
  have hnone : ({ path, source } : Subject).tree? (Source.treeOf source) = none := by
    rw [Subject.tree?, Source.treeOf_eq_none_iff.mpr h]
    rfl
  simp only [builtin, List.mem_cons, List.not_mem_nil, or_false] at ha
  rcases ha with rfl | rfl | rfl
  all_goals
    simp only [Analysis.complexity, Analysis.security, Analysis.smells, Analyzer.onTree]
    rw [hnone]

/-- With these analyzers a text that cannot be read has a result without a flaw. -/
theorem reviewSource_of_not_accepts (hbuiltin : ∀ a ∈ r.analyzers, a ∈ builtin s)
    (h : ¬ Source.Accepts source) (path : Text) :
    r.reviewSource source path
      = { result := { file := path, metrics := some (.ofLines source) }, messages := [] } := by
  have hnothing : ∀ a ∈ r.analyzers,
      r.runOne { path, source } (Source.treeOf source) a = { result := [], messages := [] } := by
    intro a ha
    rw [runOne, run_of_not_accepts (hbuiltin a ha) h path]
    rfl
  have hissues : (r.analyzers.map (r.runOne { path, source } (Source.treeOf source))).flatMap
      (·.result) = [] := by
    rw [List.flatMap_map, List.flatMap_eq_nil_iff]
    exact fun a ha => congrArg Reviewed.result (hnothing a ha)
  have hmessages : (r.analyzers.map (r.runOne { path, source } (Source.treeOf source))).flatMap
      (·.messages) = [] := by
    rw [List.flatMap_map, List.flatMap_eq_nil_iff]
    exact fun a ha => congrArg Reviewed.messages (hnothing a ha)
  unfold reviewSource
  dsimp only
  rw [hissues, hmessages, Source.treeOf_eq_none_iff.mpr h, Analysis.measure_none]

theorem accepts_of_issue (hbuiltin : ∀ a ∈ r.analyzers, a ∈ builtin s) {path : Text} {i : Issue}
    (h : i ∈ (r.reviewSource source path).result.issues) : Source.Accepts source := by
  by_contra hnot
  rw [reviewSource_of_not_accepts hbuiltin hnot] at h
  exact absurd h List.not_mem_nil

/-- Where a function or a class is counted, a tree was read, whatever the analyzers are. -/
theorem accepts_of_counted {path : Text} {m : Metrics}
    (hm : (r.reviewSource source path).result.metrics = some m)
    (h : m.functions ≠ 0 ∨ m.classes ≠ 0) : Source.Accepts source := by
  by_contra hnot
  have hmeasured : some (Analysis.measure false source (Source.treeOf source)) = some m := hm
  rw [Source.treeOf_eq_none_iff.mpr hnot, Analysis.measure_none] at hmeasured
  obtain rfl := Option.some_inj.mp hmeasured
  rcases h with h | h
  · exact h rfl
  · exact h rfl

/-- What a standard review says of a text that is no source, and what shows that it is one. -/
theorem reviewSource_clean (source path : Text) :
    ∃ r, Reviewer.new .standard [] = .ok r
      ∧ (r.reviewSource source path).result.error = none
      ∧ (¬ Source.Accepts source →
        r.reviewSource source path
          = { result := { file := path, issues := [], metrics := some (.ofLines source) }
              messages := [] }
        ∧ (r.reviewSource source path).result.score = 100
        ∧ (r.reviewSource source path).result.grade = .a)
      ∧ ((r.reviewSource source path).result.issues ≠ [] → Source.Accepts source)
      ∧ ∀ m, (r.reviewSource source path).result.metrics = some m →
        m.functions ≠ 0 ∨ m.classes ≠ 0 → Source.Accepts source := by
  refine ⟨standard, new_standard, rfl, fun hnot => ?_, fun hissues => ?_,
    fun m => accepts_of_counted⟩
  · rw [reviewSource_of_not_accepts (s := .standard) (fun a ha => ha) hnot path]
    exact ⟨rfl, rfl, rfl⟩
  · obtain ⟨i, rest, hcons⟩ := List.exists_cons_of_ne_nil hissues
    exact accepts_of_issue (s := .standard) (fun a ha => ha) (hcons ▸ List.mem_cons_self)

/-- A call that would be an issue, had it an end. -/
def unclosed : Text :=
  "eval(x"

theorem not_accepts_unclosed : ¬ Source.Accepts unclosed := by
  apply Source.treeOf_eq_none_iff.mp
  apply Option.isNone_iff_eq_none.mp
  decide +kernel

theorem reviewSource_clean_unclosed :
    ¬ Source.Accepts unclosed
      ∧ ∃ r, Reviewer.new .standard [] = .ok r
        ∧ (r.reviewSource unclosed "<string>").result.score = 100 := by
  obtain ⟨r, hr, _, hnot, _⟩ := reviewSource_clean unclosed "<string>"
  exact ⟨not_accepts_unclosed, r, hr, (hnot not_accepts_unclosed).2.1⟩

/-- A review without issues and without an error, of a text that is no source. -/
theorem clean_not_accepted :
    ∃ r, Reviewer.new .standard [] = .ok r
      ∧ (r.reviewSource unclosed "<string>").result.issues = []
      ∧ (r.reviewSource unclosed "<string>").result.error = none
      ∧ ¬ Source.Accepts unclosed := by
  refine ⟨standard, new_standard, ?_, rfl, not_accepts_unclosed⟩
  rw [reviewSource_of_not_accepts (s := .standard) (fun a ha => ha) not_accepts_unclosed]

end Reviewer

end CodeReview
