import CodeReview.Proofs.Arguments
import CodeReview.Proofs.Traversal

/-!
# Reviews and checks on the command line

A review ends with the code 0 if it reports no issue, and a check if no issue is as bad as it is
asked to fail on; otherwise, and where nothing can be reviewed, they end with the code 1. The one
leaves out what is too mild while it reviews, the other after that, and they come to the same
verdict.
-/

namespace CodeReview

/-! ## Reports -/

namespace Report.Terminal

variable (t : Terminal)

theorem exists_icon (s : Severity) : ∃ text, t.icon (.level s) = .ok text := by
  unfold icon
  split
  · exact ⟨_, rfl⟩
  · exact ⟨_, rfl⟩

theorem exists_brief {i : Issue} (h : i.Rated) : ∃ lines, t.brief i = .ok lines := by
  obtain ⟨s, hs⟩ := h
  rw [brief, hs]
  exact Steps.exists_bind (t.exists_icon s) fun _ => ⟨_, rfl⟩

theorem exists_full {i : Issue} (h : i.Rated) : ∃ lines, t.full i = .ok lines := by
  obtain ⟨s, hs⟩ := h
  have hname : shout i = .ok (s.toText.map Char.toUpper) := by
    rw [shout, hs]
    rfl
  rw [full, hs, hname]
  exact Steps.exists_bind (t.exists_icon s) fun _ => ⟨_, rfl⟩

theorem exists_found {issues : List Issue} (h : ∀ i ∈ issues, i.Rated) :
    ∃ lines, t.found issues = .ok lines := by
  rw [found]
  split
  · exact ⟨_, rfl⟩
  · refine Steps.exists_bind (Steps.exists_mapM fun i hi => ?_) fun _ => ⟨_, rfl⟩
    exact t.exists_full (h i hi)

theorem exists_file {f : FileResult} (h : f.Rated) : ∃ text, t.file f = .ok text := by
  rw [file]
  split
  · exact ⟨_, rfl⟩
  · exact Steps.exists_bind (t.exists_found h) fun _ => ⟨_, rfl⟩

theorem exists_severities (r : ReviewResult) : ∃ lines, t.severities r = .ok lines := by
  rw [severities]
  split
  · exact ⟨_, rfl⟩
  · refine Steps.exists_bind (Steps.exists_mapM fun row _ => ?_) fun _ => ⟨_, rfl⟩
    exact Steps.exists_bind (t.exists_icon row.1) fun _ => ⟨_, rfl⟩

theorem exists_top {r : ReviewResult} (h : ∀ i ∈ r.issues, i.Rated) :
    ∃ lines, t.top r = .ok lines := by
  have hrated : ∀ i ∈ topIssues r, i.Rated := fun i hi =>
    h i ((List.mergeSort_perm _ _).mem_iff.mp (List.mem_of_mem_take hi))
  rw [top]
  split
  · exact ⟨_, rfl⟩
  · refine Steps.exists_bind (Steps.exists_mapM fun i hi => ?_) fun _ => ⟨_, rfl⟩
    exact t.exists_brief (hrated i hi)

/-- Whatever is rated with levels can be reported. -/
theorem exists_format {o : Outcome} (h : ∀ i ∈ Command.issuesOf o, i.Rated) :
    ∃ text, t.format o = .ok text := by
  cases o with
  | file f => exact t.exists_file h
  | review r =>
    refine Steps.exists_bind (t.exists_severities r) fun _ => ?_
    exact Steps.exists_bind (t.exists_top h) fun _ => ⟨_, rfl⟩

end Report.Terminal

namespace Command

open Reviewer

/-! ## What a path leads to -/

/-- The outcome of a review, beside the results of the files that the path leads to. -/
inductive Told : Except Failure (List FileResult) → Except Failure (Reviewed Outcome) → Prop
  | failure (f : Failure) : Told (.error f) (.error f)
  | outcome {files : List FileResult} {x : Reviewed Outcome}
      (issues : (issuesOf x.result).Perm (files.flatMap (·.issues)))
      (count : issueCount x.result = (issuesOf x.result).length) : Told (.ok files) (.ok x)

variable {x : Reviewed Outcome}

section

variable {r : Reviewer} {s : Settings} (hbuiltin : ∀ a ∈ r.analyzers, a ∈ builtin s)
include hbuiltin

theorem told_reviewAt (now : Text) (disk : Disk) (p : Path) (parallel : Bool) :
    Told (r.gather disk p) (reviewAt r now disk p parallel) := by
  rw [reviewAt]
  cases hfile : disk.isFile p with
  | true =>
    rw [if_pos rfl, gather, hfile, if_pos rfl]
    cases r.reviewFile disk p p.toText with
    | error f => exact .failure f
    | ok x =>
      refine .outcome ?_ rfl
      rw [List.flatMap_singleton]
      exact .refl _
  | false =>
    rw [if_neg Bool.false_ne_true]
    have htells := reviewDirectory_tells hbuiltin now hfile (t := { parallel := parallel }) rfl
      (show (0 : Int) < 4 by decide)
    rcases htells with ⟨f, hgather, hreview⟩ | ⟨files, x, hgather, hreview, htells⟩
    · rw [hgather, hreview]
      exact .failure f
    · rw [hgather, hreview]
      -- The files may be listed in another order, and their issues with them.
      have hissues := htells.listed.flatMap_right (·.issues)
      refine .outcome hissues ?_
      change x.result.totalIssues = _
      rw [htells.total, ← hissues.length_eq]
      rfl

/-- What there is to tell comes from files that could be reviewed. -/
theorem exists_gather_of_reviewAt {now : Text} {disk : Disk} {p : Path} {parallel : Bool}
    (h : reviewAt r now disk p parallel = .ok x) :
    ∃ files, r.gather disk p = .ok files
      ∧ (issuesOf x.result).Perm (files.flatMap (·.issues))
      ∧ issueCount x.result = (issuesOf x.result).length := by
  have htold := told_reviewAt hbuiltin now disk p parallel
  rw [h] at htold
  generalize r.gather disk p = gathered at htold
  cases htold with
  | outcome issues count => exact ⟨_, rfl, issues, count⟩

theorem rated_of_reviewAt {now : Text} {disk : Disk} {p : Path} {parallel : Bool}
    (h : reviewAt r now disk p parallel = .ok x) :
    ∀ i ∈ issuesOf x.result, i.Rated := by
  obtain ⟨files, hgather, hissues, _⟩ := exists_gather_of_reviewAt hbuiltin h
  intro i hi
  exact rated_flatMap_issues (sound_of_mem_gather hbuiltin hgather) i (hissues.mem_iff.mp hi)

end

/-- With a minimum a review fails where it fails without one, and otherwise tells of what is at
least as bad, and of nothing else. -/
theorem reviewAt_withMinimum {r : Reviewer} {s : Settings}
    (hbuiltin : ∀ a ∈ r.analyzers, a ∈ builtin s) (l : Severity) (now : Text) (disk : Disk)
    (p : Path) (parallel : Bool) :
    (∃ f, reviewAt (r.withMinimum "info") now disk p parallel = .error f
        ∧ reviewAt (r.withMinimum l.toText) now disk p parallel = .error f)
      ∨ ∃ all x, reviewAt (r.withMinimum "info") now disk p parallel = .ok all
        ∧ reviewAt (r.withMinimum l.toText) now disk p parallel = .ok x
        ∧ ∀ i, i ∈ issuesOf x.result ↔ i ∈ issuesOf all.result ∧ i.AtLeast l := by
  -- Both reviews tell what is gathered, so it is enough to compare what is gathered.
  have hall := told_reviewAt (r := r.withMinimum "info") hbuiltin now disk p parallel
  have hleast := told_reviewAt (r := r.withMinimum l.toText) hbuiltin now disk p parallel
  rw [gather_withMinimum] at hleast
  cases hgather : (r.withMinimum "info").gather disk p with
  | error f =>
    rw [hgather] at hall hleast
    left
    generalize reviewAt _ now disk p parallel = all at hall ⊢
    generalize reviewAt _ now disk p parallel = x at hleast ⊢
    cases hall
    cases hleast
    exact ⟨f, rfl, rfl⟩
  | ok files =>
    have hrated := rated_flatMap_issues
      (sound_of_mem_gather (r := r.withMinimum "info") hbuiltin hgather)
    rw [hgather] at hall hleast
    right
    generalize reviewAt _ now disk p parallel = all at hall ⊢
    generalize reviewAt _ now disk p parallel = x at hleast ⊢
    cases hall with
    | outcome hissues =>
    cases hleast with
    | outcome hissues' =>
      refine ⟨_, _, rfl, rfl, fun i => ?_⟩
      rw [hissues'.mem_iff, flatMap_issues_thin, hissues.mem_iff]
      exact mem_keep rfl hrated

/-! ## Codes -/

/-- A code that tells whether a review has found anything of a level or worse. A review that fails
is as bad as one that has. -/
structure Judges (code : Nat) (s : Severity) (review : Except Failure (Reviewed Outcome)) :
    Prop where
  zeroOrOne : code = 0 ∨ code = 1
  failed : ∀ f, review = .error f → code = 1
  reviewed : ∀ x, review = .ok x → (code = 1 ↔ ∃ i ∈ issuesOf x.result, i.AtLeast s)

namespace Judges

variable {s : Severity}

theorem failure (f : Failure) : Judges 1 s (.error f) where
  zeroOrOne := .inr rfl
  failed _ _ := rfl
  reviewed _ h := nomatch h

/-- The code tells whether there is anything among the issues that are bad enough. -/
theorem outcome {bad : List Issue} (h : ∀ i, i ∈ bad ↔ i ∈ issuesOf x.result ∧ i.AtLeast s) :
    Judges (if bad.isEmpty then 0 else 1) s (.ok x) where
  zeroOrOne := by
    split
    · exact .inl rfl
    · exact .inr rfl
  failed _ h := nomatch h
  reviewed y hy := by
    obtain rfl := Except.ok.inj hy
    cases bad with
    | nil =>
      refine iff_of_false (by decide) ?_
      rintro ⟨i, hi, hbad⟩
      exact List.not_mem_nil ((h i).mpr ⟨hi, hbad⟩)
    | cons i rest => exact iff_of_true rfl ⟨i, (h i).mp List.mem_cons_self⟩

end Judges

section

variable {now path : Text} {disk : Disk} {options : Entries Text}

theorem reviewAt_missing {r : Reviewer} {p : Path} (h : disk.has p = false) (parallel : Bool) :
    reviewAt r now disk p parallel = .error (.directoryNotFound p.toText) := by
  have hfile : disk.isFile p = false := by
    cases hfile : disk.isFile p with
    | false => rfl
    | true => exact absurd (Disk.has_of_isFile hfile) (by simp [h])
  rw [reviewAt, hfile, if_neg Bool.false_ne_true, reviewDirectory, h]
  rfl

theorem runCheck_missing (h : disk.has (Path.ofText path) = false) (failOn : Text) :
    runCheck now disk path failOn = .ok (notFound disk path) := by
  simp only [runCheck, h]
  rfl

theorem runReview_missing (h : disk.has (Path.ofText path) = false) :
    runReview now disk path options = .ok (notFound disk path) := by
  simp only [runReview, h]
  rfl

variable (hhas : disk.has (Path.ofText path) = true)
include hhas

theorem runCheck_failed {f : Failure}
    (h : reviewAt standard now disk (Path.ofText path) true = .error f) (failOn : Text) :
    ∃ lines, runCheck now disk path failOn = .ok (finish disk 1 lines) := by
  simp only [runCheck, hhas, new_standard, Bool.not_true, Bool.false_eq_true, if_false, bind,
    Except.bind, h]
  exact ⟨_, rfl⟩

theorem runCheck_done
    (h : reviewAt standard now disk (Path.ofText path) true = .ok x) (failOn : Text) :
    ∃ lines, runCheck now disk path failOn
      = .ok (finish disk (if (failing failOn (issuesOf x.result)).isEmpty then 0 else 1)
          lines) := by
  simp only [runCheck, hhas, new_standard, Bool.not_true, Bool.false_eq_true, if_false, bind,
    Except.bind, h]
  split
  · exact ⟨_, rfl⟩
  · exact ⟨_, rfl⟩

variable {r : Reviewer} (hnew : Reviewer.new (settingsOf options) [] = .ok r)
include hnew

theorem runReview_failed {f : Failure}
    (h : reviewAt r now disk (Path.ofText path) (!options.has "no-parallel") = .error f) :
    ∃ lines, runReview now disk path options = .ok (finish disk 1 lines) := by
  simp only [runReview, hhas, hnew, Bool.not_true, Bool.false_eq_true, if_false, bind, Except.bind,
    h]
  exact ⟨_, rfl⟩

theorem runReview_shown
    (h : reviewAt r now disk (Path.ofText path) (!options.has "no-parallel") = .ok x)
    (hcount : issueCount x.result = (issuesOf x.result).length)
    (hformat : options.get? "format" = none) (houtput : options.get? "output" = none)
    {report : Text} (hreport : Report.Terminal.format {} x.result = .ok report) :
    runReview now disk path options
      = .ok (finish disk (if (issuesOf x.result).isEmpty then 0 else 1)
          (["Reviewing: " ++ (Path.ofText path).toText, []] ++ x.messages ++ [report])) := by
  have hformatted : (reporterOf ((options.get? "format").getD "terminal")).format now x.result
      = .ok report := by
    rw [hformat]
    exact hreport
  have hnone : issueCount x.result = 0 ↔ (issuesOf x.result).isEmpty = true := by
    rw [hcount, List.isEmpty_iff, Int.natCast_eq_zero, List.length_eq_zero_iff]
  simp only [runReview, hhas, hnew, Bool.not_true, Bool.false_eq_true, if_false, bind, Except.bind,
    h, hformatted, houtput, hnone]
  rfl

end

/-! ## Checks and reviews -/

theorem judges_runCheck (now : Text) (disk : Disk) (path : Text) (s : Severity) :
    ∃ x, runCheck now disk path s.toText = .ok x
      ∧ Judges x.code s (reviewAt standard now disk (Path.ofText path) true) := by
  cases hhas : disk.has (Path.ofText path) with
  | false =>
    rw [reviewAt_missing hhas]
    exact ⟨_, runCheck_missing hhas s.toText, .failure _⟩
  | true =>
    cases hreview : reviewAt standard now disk (Path.ofText path) true with
    | error f =>
      obtain ⟨lines, hlines⟩ := runCheck_failed hhas hreview s.toText
      exact ⟨_, hlines, .failure f⟩
    | ok x =>
      have hrated := rated_of_reviewAt (fun a ha => ha) hreview
      obtain ⟨lines, hlines⟩ := runCheck_done hhas hreview s.toText
      refine ⟨_, hlines, .outcome fun i => ?_⟩
      rw [failing, Rating.ofText_toText, List.mem_filter, decide_eq_true_iff]
      exact and_congr_right fun hi => ((hrated i hi).atLeast_iff s).symm

theorem judges_runReview (now : Text) (disk : Disk) (path : Text) (s : Severity) :
    ∃ x, runReview now disk path [("min-severity", s.toText)] = .ok x
      ∧ Judges x.code s
        (reviewAt (standard.withMinimum s.toText) now disk (Path.ofText path) true) := by
  have hnew : Reviewer.new (settingsOf [("min-severity", s.toText)]) []
      = .ok (standard.withMinimum s.toText) := by
    change Reviewer.new (Settings.standard.withMinimum s.toText) [] = _
    rw [new_withMinimum, new_standard]
    rfl
  have hbuiltin : ∀ a ∈ (standard.withMinimum s.toText).analyzers, a ∈ builtin .standard :=
    fun a ha => ha
  cases hhas : disk.has (Path.ofText path) with
  | false =>
    rw [reviewAt_missing hhas]
    exact ⟨_, runReview_missing hhas, .failure _⟩
  | true =>
    rcases reviewAt_withMinimum (r := standard) (fun a ha => ha) s now disk (Path.ofText path) true
      with ⟨f, _, hreview⟩ | ⟨_, x, _, hreview, hissues⟩
    · rw [hreview]
      obtain ⟨lines, hlines⟩ := runReview_failed hhas hnew hreview
      exact ⟨_, hlines, .failure f⟩
    · obtain ⟨report, hreport⟩ :=
        Report.Terminal.exists_format {} (rated_of_reviewAt hbuiltin hreview)
      obtain ⟨_, _, _, hcount⟩ := exists_gather_of_reviewAt hbuiltin hreview
      rw [hreview]
      refine ⟨_, runReview_shown hhas hnew hreview hcount rfl rfl hreport, .outcome fun i => ?_⟩
      -- Nothing that is told is too mild, so there is nothing else to ask for.
      rw [iff_self_and]
      exact fun hi => ((hissues i).mp hi).2

/-- What one review finds bad enough the other finds bad enough. -/
theorem Judges.code_eq {code code' : Nat} {s : Severity} {now : Text} {disk : Disk} {p : Path}
    (h : Judges code s (reviewAt standard now disk p true))
    (h' : Judges code' s (reviewAt (standard.withMinimum s.toText) now disk p true)) :
    code = code' := by
  rcases reviewAt_withMinimum (r := standard) (fun a ha => ha) s now disk p true
    with ⟨f, hall, hleast⟩ | ⟨all, x, hall, hleast, hissues⟩
  · rw [h.failed f hall, h'.failed f hleast]
  · have hsame : code = 1 ↔ code' = 1 := by
      rw [h.reviewed all hall, h'.reviewed x hleast]
      constructor
      · rintro ⟨i, hi, hbad⟩
        exact ⟨i, (hissues i).mpr ⟨hi, hbad⟩, hbad⟩
      · rintro ⟨i, hi, hbad⟩
        exact ⟨i, ((hissues i).mp hi).1, hbad⟩
    have hcode := h.zeroOrOne
    have hcode' := h'.zeroOrOne
    omega

/-- A check that fails on a level and a review with this level as its minimum end with the same
code, whatever the path leads to: 1 if there is nothing at the path or the review fails, and
otherwise 1 just if there is an issue of this level or a worse one. -/
theorem check_code_eq_review_code (now : Text) (disk : Disk) (path : Text) (s : Severity) :
    ∃ checked reviewed,
      runCheck now disk path s.toText = .ok checked
      ∧ runReview now disk path [("min-severity", s.toText)] = .ok reviewed
      ∧ (path.head? ≠ some '-' →
          run now disk ["check", path, "--fail-on", s.toText] = .ok checked
          ∧ run now disk ["review", path, "--min-severity", s.toText] = .ok reviewed)
      ∧ checked.code = reviewed.code
      ∧ (disk.has (Path.ofText path) = false → checked.code = 1)
      ∧ Judges checked.code s (reviewAt standard now disk (Path.ofText path) true)
      ∧ Judges reviewed.code s
        (reviewAt (standard.withMinimum s.toText) now disk (Path.ofText path) true) := by
  obtain ⟨checked, hchecked, hjudges⟩ := judges_runCheck now disk path s
  obtain ⟨reviewed, hreviewed, hjudges'⟩ := judges_runReview now disk path s
  refine ⟨checked, reviewed, hchecked, hreviewed, fun hpath => ⟨?_, ?_⟩, hjudges.code_eq hjudges',
    fun hmissing => hjudges.failed _ (reviewAt_missing hmissing true), hjudges, hjudges'⟩
  · rw [run, read_check hpath]
    exact hchecked
  · rw [run, read_review_minSeverity hpath]
    exact hreviewed

/-- One file, with a mark for work to be done. -/
def todoDisk : Disk where
  items := [([], .directory), (["a.py"], .file (Text.utf8 "# TODO"))]
  home := []

theorem reviewFile_todo (r : Reviewer) (h : r.looksAt (Path.ofText "a.py") = .ok true) :
    r.reviewFile todoDisk (Path.ofText "a.py") (Path.ofText "a.py").toText
      = .ok (r.reviewSource "# TODO" "a.py") := by
  have hhas : todoDisk.has (Path.ofText "a.py") = true := by decide
  have hread : todoDisk.read (Path.ofText "a.py") = .ok (Text.utf8 "# TODO") := by rfl
  have htext : textOfBytes (Text.utf8 "# TODO") = "# TODO".toList := by decide
  have hname : (Path.ofText "a.py").toText = "a.py".toList := by decide
  unfold reviewFile
  rw [hhas, h, hread, hname]
  change Except.ok (r.reviewSource (textOfBytes (Text.utf8 "# TODO")) "a.py") = _
  rw [htext]

theorem severities_todo : (standard.reviewSource "# TODO" "a.py").result.issues.map (·.severity)
    = [.level .info] := by
  decide +kernel

theorem check_code_eq_review_code_todo :
    ∃ checked reviewed,
      run [] todoDisk ["check", "a.py", "--fail-on", "info"] = .ok checked
      ∧ run [] todoDisk ["review", "a.py", "--min-severity", "info"] = .ok reviewed
      ∧ checked.code = 1 ∧ reviewed.code = 1 := by
  obtain ⟨checked, reviewed, _, _, hrun, hcode, _, hjudges, _⟩ :=
    check_code_eq_review_code [] todoDisk "a.py" .info
  obtain ⟨hchecked, hreviewed⟩ := hrun (by decide)
  have hreview : ∃ messages, reviewAt standard [] todoDisk (Path.ofText "a.py") true
      = .ok ⟨.file (standard.reviewSource "# TODO" "a.py").result, messages⟩ := by
    have hfile : todoDisk.isFile (Path.ofText "a.py") = true := by decide
    rw [reviewAt, hfile, if_pos rfl, reviewFile_todo standard rfl]
    exact ⟨_, rfl⟩
  obtain ⟨messages, hreview⟩ := hreview
  have hone : checked.code = 1 := by
    rw [hjudges.reviewed _ hreview]
    have hmem : Rating.level .info ∈ (standard.reviewSource "# TODO" "a.py").result.issues.map
        (·.severity) := by
      rw [severities_todo]
      exact List.mem_singleton.mpr rfl
    obtain ⟨i, hi, hlevel⟩ := List.mem_map.mp hmem
    exact ⟨i, hi, .info, hlevel, Nat.le_refl _⟩
  exact ⟨checked, reviewed, hchecked, hreviewed, hone, hcode ▸ hone⟩

end Command

end CodeReview
