import CodeReview.Proofs.Entries
import CodeReview.Proofs.Steps
import CodeReview.Report.Data
import CodeReview.Review

/-!
# What a review of many files sums up

`Reviewer.aggregate` gives a result as soon as every issue that counts is rated with a level, and
then nothing is lost or counted twice: the counts by severity and by type, the issues by file and
the numbers in a report all agree with the issues of the files that were not skipped.
-/

namespace CodeReview

open Reviewer

/-! ## Levels -/

/-- Rated with a level. -/
def Issue.Rated (i : Issue) : Prop :=
  ∃ s : Severity, i.severity = .level s

def FileResult.Rated (f : FileResult) : Prop :=
  ∀ i ∈ f.issues, i.Rated

theorem Severity.toText_inj {s t : Severity} (h : s.toText = t.toText) : s = t := by
  have hs := ofText?_toText s
  rw [h, ofText?_toText] at hs
  exact (Option.some.inj hs).symm

/-- Counting names of levels is counting levels. -/
theorem count_severity_text {issues : List Issue} (h : ∀ i ∈ issues, i.Rated) (s : Severity) :
    (issues.map (·.severity.toText)).count s.toText
      = issues.countP fun i => i.severity = .level s := by
  rw [List.count, List.countP_map]
  apply List.countP_congr
  intro i hi
  obtain ⟨t, ht⟩ := h i hi
  simp only [Function.comp_apply, ht, Rating.toText, beq_iff_eq, decide_eq_true_eq,
    Rating.level.injEq]
  exact ⟨Severity.toText_inj, congrArg Severity.toText⟩

/-! ## When there is a result -/

namespace Reviewer

variable {files : List FileResult}

theorem rated_of_mem_found (h : ∀ f ∈ files, f.Rated) :
    ∀ i ∈ found files, i.Rated := by
  intro i hi
  obtain ⟨f, hf, hin⟩ := List.mem_flatMap.mp hi
  exact h f (List.mem_of_mem_filter hf) i hin

theorem aggregate_of_rated (now : Text)
    (h : ∀ i ∈ found files, i.Rated) : aggregate now files = .ok (summary now files) := by
  have hsteps : ∀ i ∈ found files, ∃ s, i.severity.severity = .ok s ∧ i.severity = .level s := by
    intro i hi
    obtain ⟨s, hs⟩ := h i hi
    exact ⟨s, by rw [hs]; rfl, hs⟩
  obtain ⟨levels, hlevels, _⟩ := Steps.exists_mapM_ok hsteps
  rw [aggregate, hlevels]
  rfl

/-- An issue that is rated with another word has no level to be counted by. -/
theorem aggregate_of_unrated (now : Text) (h : ¬ ∀ i ∈ found files, i.Rated) :
    aggregate now files = .error (.missingMember "str" "value") := by
  have hway : ∀ i ∈ found files, (∃ s, i.severity.severity = .ok s) ∨
      i.severity.severity = .error (.missingMember "str" "value") := by
    intro i _
    cases i.severity with
    | level s => exact .inl ⟨s, rfl⟩
    | other t => exact .inr rfl
  -- Some issue has no level, and asking for the level of that one is what fails.
  have hbad : ∃ i ∈ found files, i.severity.severity = .error (.missingMember "str" "value") := by
    obtain ⟨i, hnot⟩ := not_forall.mp h
    obtain ⟨hi, hnot⟩ := Classical.not_imp.mp hnot
    refine ⟨i, hi, (hway i hi).resolve_left ?_⟩
    rintro ⟨s, hs⟩
    cases hsev : i.severity with
    | level t => exact hnot ⟨t, hsev⟩
    | other t => rw [hsev] at hs; exact absurd hs (by simp [Rating.severity])
  rw [aggregate, Steps.mapM_error hway hbad]
  rfl

end Reviewer

/-! ## Sums -/

/-- What numbers add up to from the left; whole numbers add up to a whole number. -/
structure Number.IsSumOf (total : Number) (xs : List Number) : Prop where
  fromLeft : total = Number.sum xs
  whole : ∀ ns : List Int, xs = ns.map .int → total = .int ns.sum

theorem Number.sum_ints (ns : List Int) : Number.sum (ns.map .int) = .int ns.sum := by
  suffices haux : ∀ (ns : List Int) (n : Int),
      (ns.map Number.int).foldl Number.add (.int n) = .int (n + ns.sum) by
    have h := haux ns 0
    rw [zero_add] at h
    exact h
  clear ns
  intro ns
  induction ns with
  | nil => intro n; simp
  | cons m ns ih =>
    intro n
    rw [List.map_cons, List.foldl_cons, Number.add, ih, List.sum_cons, add_assoc]

theorem Number.isSumOf_sum (xs : List Number) : (Number.sum xs).IsSumOf xs where
  fromLeft := rfl
  whole ns h := by rw [h, sum_ints]

theorem sum_issue_counts (files : List FileResult) :
    (files.map fun f => (f.issues.length : Int)).sum = (files.flatMap (·.issues)).length := by
  induction files with
  | nil => rfl
  | cons f files ih =>
    rw [List.map_cons, List.sum_cons, ih, List.flatMap_cons, List.length_append, Nat.cast_add]

/-! ## Reports as data -/

namespace Report.Data

/-- The numbers of issues that a report about many files gives for the files that it lists. -/
def listedCounts (v : Value) : Option (List Int) :=
  ((v.field? "files").bind Value.list?).bind fun files =>
    files.mapM fun f => (f.field? "issue_count").bind Value.int?

/-- The number of all issues that a report about many files states. -/
def statedTotal (v : Value) : Option Int :=
  ((v.field? "summary").bind (·.field? "total_issues")).bind Value.int?

theorem issue_of_rated {i : Issue} (h : i.Rated) : ∃ v, issue i = .ok v := by
  obtain ⟨s, hs⟩ := h
  exact ⟨_, by rw [issue, hs]; rfl⟩

theorem part_of_rated {f : FileResult} (h : f.Rated) :
    ∃ v, part f = .ok v
      ∧ (v.field? "issue_count").bind Value.int? = some (f.issues.length : Int) := by
  have hsteps : ∀ i ∈ f.issues, ∃ v, issue i = .ok v ∧ True := fun i hi =>
    (issue_of_rated (h i hi)).imp fun _ hv => ⟨hv, trivial⟩
  obtain ⟨issues, hissues, _⟩ := Steps.exists_mapM_ok hsteps
  refine ⟨_, by rw [part, hissues]; rfl, ?_⟩
  simp [Value.field?, Entries.get?, Value.ofNat, Value.int?]

theorem review_of_parts (d : Data) (moment : Text) {r : ReviewResult} {m : Metrics}
    {parts : List Value} (hm : r.metrics = some m) (h : r.reviewed.mapM part = .ok parts) :
    ∃ v, d.review moment r = .ok v ∧ v.field? "files" = some (.list parts)
      ∧ (v.field? "summary").bind (·.field? "total_issues") = some (.ofInt r.totalIssues) := by
  refine ⟨_, by rw [review, h]; rfl, ?_, ?_⟩
  · simp [Value.field?, Entries.get?, hm, metrics]
  · simp [Value.field?, Entries.get?]

/-- A report lists the files that were looked at, each with its number of issues. -/
theorem review_of_rated (d : Data) (moment : Text) {r : ReviewResult} {m : Metrics}
    (hm : r.metrics = some m) (h : ∀ f ∈ r.reviewed, f.Rated) :
    ∃ v, d.review moment r = .ok v
      ∧ listedCounts v = some (r.reviewed.map fun f => (f.issues.length : Int))
      ∧ statedTotal v = some r.totalIssues := by
  obtain ⟨parts, hparts, hall⟩ := Steps.exists_mapM_ok fun f hf => part_of_rated (h f hf)
  obtain ⟨v, hv, hfiles, htotal⟩ := review_of_parts d moment hm hparts
  refine ⟨v, hv, ?_, ?_⟩
  · rw [listedCounts, hfiles]
    exact Steps.mapM_of_forall₂ hall
  · rw [statedTotal, htotal]
    rfl

end Report.Data

/-! ## The summary -/

/-- A result says about files what is true of the issues and metrics of those that count. -/
structure ReviewResult.SumsUp (r : ReviewResult) (files : List FileResult) : Prop where
  total : r.totalIssues = (found files).length
  severityCount : ∀ s : Severity, r.bySeverity.get? s.toText
    = Entries.stored ((found files).countP fun i => i.severity = .level s)
  typeCount : ∀ t : Text, r.byType.get? t
    = Entries.stored ((found files).countP fun i => i.type = t)
  severityKeys : r.bySeverity.names.Nodup
    ∧ ∀ e ∈ r.bySeverity, (∃ s : Severity, e.1 = s.toText) ∧ e.2 ≠ 0
  typeKeys : r.byType.names.Nodup ∧ ∀ e ∈ r.byType, e.2 ≠ 0
  severitySum : r.bySeverity.values.sum = r.totalIssues
  typeSum : r.byType.values.sum = r.totalIssues
  metrics : ∃ m, r.metrics = some m
    ∧ m.totalLines.IsSumOf ((measured files).map (·.totalLines))
    ∧ m.linesOfCode.IsSumOf ((measured files).map (·.linesOfCode))
    ∧ m.functions.IsSumOf ((measured files).map (·.functions))
    ∧ m.classes.IsSumOf ((measured files).map (·.classes))
  byFile : ((counted files).map (·.file)).Nodup →
    (∀ f ∈ counted files, r.byFile.get? f.file = some f.issues)
    ∧ (∀ name ∉ (counted files).map (·.file), r.byFile.get? name = none)
    ∧ (r.byFile.values.map fun is => (is.length : Int)).sum = r.totalIssues
  report : ∀ (d : Report.Data) (moment : Text), ∃ v counts, d.review moment r = .ok v
    ∧ Report.Data.listedCounts v = some counts ∧ Report.Data.statedTotal v = some counts.sum

namespace Reviewer

theorem bySeverity_summary (h : ∀ i ∈ found files, i.Rated) (now : Text)
    (s : Severity) : (summary now files).bySeverity.get? s.toText
      = Entries.stored ((found files).countP fun i => i.severity = .level s) := by
  rw [← count_severity_text h]
  exact Entries.get?_tally _ _

theorem byType_summary (files : List FileResult) (now t : Text) :
    (summary now files).byType.get? t
      = Entries.stored ((found files).countP fun i => i.type = t) := by
  have hcount : ((found files).map (·.type)).count t
      = (found files).countP fun i => i.type = t := by
    rw [List.count, List.countP_map]
    apply List.countP_congr
    intro i _
    simp
  rw [← hcount]
  exact Entries.get?_tally _ _

theorem severityKeys_summary (h : ∀ i ∈ found files, i.Rated)
    (now : Text) : ∀ e ∈ (summary now files).bySeverity, ∃ s : Severity, e.1 = s.toText := by
  intro e he
  obtain ⟨i, hi, hname⟩ := List.mem_map.mp (Entries.mem_of_mem_tally he)
  obtain ⟨s, hs⟩ := h i hi
  exact ⟨s, by rw [← hname, hs]; rfl⟩

theorem byFile_summary (now : Text) (h : ((counted files).map (·.file)).Nodup) :
    (summary now files).byFile = (counted files).map fun f => (f.file, f.issues) := by
  apply Entries.ofPairs_eq_self
  rw [List.map_map]
  exact h

/-- Different files keep their issues apart. -/
theorem get?_byFile_summary (now : Text) (h : ((counted files).map (·.file)).Nodup) :
    (∀ f ∈ counted files, (summary now files).byFile.get? f.file = some f.issues)
      ∧ ∀ name ∉ (counted files).map (·.file), (summary now files).byFile.get? name = none := by
  have hnames : ((counted files).map fun f => (f.file, f.issues)).map (·.1)
      = (counted files).map (·.file) := by
    rw [List.map_map]
    rfl
  rw [byFile_summary now h]
  constructor
  · intro f hf
    apply Entries.get?_eq_some_of_mem
    · rw [Entries.names, hnames]
      exact h
    · exact List.mem_map.mpr ⟨f, hf, rfl⟩
  · intro name hnot
    rw [Entries.get?_eq_none_iff, Entries.names, hnames]
    exact hnot

theorem sum_byFile_summary (now : Text) (h : ((counted files).map (·.file)).Nodup) :
    ((summary now files).byFile.values.map fun is => (is.length : Int)).sum
      = (found files).length := by
  rw [byFile_summary now h, found, ← sum_issue_counts, Entries.values, List.map_map, List.map_map]
  rfl

/-- Nothing is lost and nothing is counted twice when the results of files are put together. -/
theorem aggregate_sumsUp (now : Text) (files : List FileResult) (h : ∀ f ∈ files, f.Rated) :
    ∃ r, aggregate now files = .ok r ∧ r.SumsUp files := by
  have hfound := rated_of_mem_found h
  refine ⟨summary now files, aggregate_of_rated now hfound, ?_⟩
  exact {
    total := rfl
    severityCount := bySeverity_summary hfound now
    typeCount := byType_summary files now
    severityKeys := ⟨Entries.nodup_names_tally _, fun e he =>
      ⟨severityKeys_summary hfound now e he, Entries.ne_zero_of_mem_tally he⟩⟩
    typeKeys := ⟨Entries.nodup_names_tally _, fun e he => Entries.ne_zero_of_mem_tally he⟩
    severitySum := by
      rw [summary, Entries.sum_values_tally, List.length_map]
    typeSum := by
      rw [summary, Entries.sum_values_tally, List.length_map]
    metrics := ⟨_, rfl, Number.isSumOf_sum _, Number.isSumOf_sum _, Number.isSumOf_sum _,
      Number.isSumOf_sum _⟩
    byFile := fun hnames =>
      ⟨(get?_byFile_summary now hnames).1, (get?_byFile_summary now hnames).2,
        sum_byFile_summary now hnames⟩
    report := by
      intro d moment
      have hreviewed : ∀ f ∈ (summary now files).reviewed, f.Rated := fun f hf =>
        h f (List.mem_of_mem_filter hf)
      obtain ⟨v, hv, hlisted, htotal⟩ := Report.Data.review_of_rated d moment rfl hreviewed
      refine ⟨v, _, hv, hlisted, ?_⟩
      rw [htotal, sum_issue_counts]
      rfl }

/-- A file with two issues, a file that was skipped, and a file that nobody has measured. -/
def someFiles : List FileResult :=
  let issue (severity : Severity) (file : Text) : Issue :=
    { type := "long_line", severity := .level severity, file := file, line := 1, message := [] }
  [{ file := "a.py", issues := [issue .low "a.py", issue .critical "a.py"]
     metrics := some { totalLines := 7 } },
    { file := "b.py", issues := [issue .low "b.py"], metrics := some {}, skipped := true },
    { file := "c.py", issues := [issue .low "c.py"] }]

theorem someFiles_rated : ∀ f ∈ someFiles, f.Rated := by
  simp [someFiles, FileResult.Rated, Issue.Rated]

theorem aggregate_sumsUp_someFiles :
    (∀ f ∈ someFiles, f.Rated)
      ∧ ∃ r, aggregate [] someFiles = .ok r ∧ r.SumsUp someFiles
        ∧ r.totalIssues = 3 ∧ r.bySeverity.get? Severity.low.toText = some 2
        ∧ r.byFile.get? "b.py" = none := by
  obtain ⟨r, hr, hsums⟩ := aggregate_sumsUp [] someFiles someFiles_rated
  have hnames : ((counted someFiles).map (·.file)).Nodup := by decide
  refine ⟨someFiles_rated, r, hr, hsums, ?_, ?_, ?_⟩
  · rw [hsums.total]
    rfl
  · rw [hsums.severityCount]
    rfl
  · exact (hsums.byFile hnames).2.1 "b.py" (by decide)

end Reviewer

end CodeReview
