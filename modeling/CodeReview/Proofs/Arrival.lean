import CodeReview.Proofs.Pool
import CodeReview.Proofs.Score
import CodeReview.Review.Paths

/-!
# The order in which files arrive

Files that are reviewed side by side arrive in an order that nobody chooses. What they come to
together does not depend on it: the counts and the score are those of all issues in any order,
different files keep their issues apart, and the metrics that are added up are whole numbers. Only
the average complexity adds up rounded numbers, so it is left out here.
-/

namespace CodeReview

open Reviewer

/-! ## Whole numbers -/

def Number.Whole (x : Number) : Prop :=
  ∃ n : Int, x = .int n

theorem Number.exists_ints {xs : List Number} (h : ∀ x ∈ xs, x.Whole) :
    ∃ ns : List Int, xs = ns.map .int := by
  induction xs with
  | nil => exact ⟨[], rfl⟩
  | cons x xs ih =>
    obtain ⟨n, rfl⟩ := h x List.mem_cons_self
    obtain ⟨ns, rfl⟩ := ih fun y hy => h y (List.mem_cons_of_mem _ hy)
    exact ⟨n :: ns, rfl⟩

/-- Unlike rounded numbers, whole ones add up to the same in any order. -/
theorem Number.sum_perm {xs ys : List Number} (hp : xs.Perm ys) (h : ∀ x ∈ xs, x.Whole) :
    Number.sum xs = Number.sum ys := by
  obtain ⟨ns, rfl⟩ := exists_ints h
  obtain ⟨ms, rfl⟩ := exists_ints fun y hy => h y (hp.mem_iff.mpr hy)
  have hinj : Function.Injective Number.int := fun _ _ heq => Number.int.inj heq
  rw [sum_ints, sum_ints, ((List.map_perm_map_iff hinj).mp hp).sum_eq]

/-- The metrics that a summary adds up are whole numbers. -/
structure Metrics.Whole (m : Metrics) : Prop where
  linesOfCode : m.linesOfCode.Whole
  totalLines : m.totalLines.Whole
  functions : m.functions.Whole
  classes : m.classes.Whole

theorem Metrics.whole_none : ({} : Metrics).Whole :=
  ⟨⟨0, rfl⟩, ⟨0, rfl⟩, ⟨0, rfl⟩, ⟨0, rfl⟩⟩

theorem Metrics.whole_measure (assertions : Bool) (source : Text) (tree : Option Source.Node) :
    (Analysis.measure assertions source tree).Whole :=
  ⟨⟨_, rfl⟩, ⟨_, rfl⟩, ⟨_, rfl⟩, ⟨_, rfl⟩⟩

/-! ## Results that agree -/

/-- The same in all that does not depend on the order of the files. -/
structure ReviewResult.Agrees (a b : ReviewResult) : Prop where
  totalIssues : a.totalIssues = b.totalIssues
  bySeverity : ∀ name, a.bySeverity.get? name = b.bySeverity.get? name
  byType : ∀ name, a.byType.get? name = b.byType.get? name
  byFile : ∀ name, a.byFile.get? name = b.byFile.get? name
  metrics : a.metrics.map (fun m => { m with avgComplexity := 0 })
    = b.metrics.map fun m => { m with avgComplexity := 0 }
  score : a.score = b.score
  grade : a.grade = b.grade

/-- Two results that agree, or one failure. -/
inductive Alike : Except Failure ReviewResult → Except Failure ReviewResult → Prop
  | result {a b : ReviewResult} (h : a.Agrees b) : Alike (.ok a) (.ok b)
  | failure (f : Failure) : Alike (.error f) (.error f)

theorem Entries.get?_tally_perm {ns ms : List Text} (h : ns.Perm ms) (name : Text) :
    (tally ns).get? name = (tally ms).get? name := by
  rw [get?_tally, get?_tally, h.count_eq]

namespace Reviewer

variable {files files' : List FileResult}

theorem counted_perm (h : files.Perm files') : (counted files).Perm (counted files') :=
  h.filter _

theorem found_perm (h : files.Perm files') : (found files).Perm (found files') :=
  (counted_perm h).flatMap_right _

theorem measured_perm (h : files.Perm files') : (measured files).Perm (measured files') :=
  (counted_perm h).filterMap _

theorem sum_measured_perm (h : files.Perm files') {f : Metrics → Number}
    (hf : ∀ m ∈ measured files, (f m).Whole) :
    Number.sum ((measured files).map f) = Number.sum ((measured files').map f) := by
  apply Number.sum_perm ((measured_perm h).map f)
  intro x hx
  obtain ⟨m, hm, rfl⟩ := List.mem_map.mp hx
  exact hf m hm

theorem get?_byFile_perm (h : files.Perm files') (hnames : ((counted files).map (·.file)).Nodup)
    (now name : Text) :
    (summary now files).byFile.get? name = (summary now files').byFile.get? name := by
  have hcounted := counted_perm h
  have hnames' : ((counted files').map (·.file)).Nodup := (hcounted.map _).nodup_iff.mp hnames
  rw [byFile_summary now hnames, byFile_summary now hnames']
  apply Entries.get?_perm (hcounted.map _)
  rw [Entries.names, List.map_map]
  exact hnames

theorem score_perm (h : files.Perm files') (hrated : ∀ i ∈ found files, i.Rated) (now : Text) :
    (summary now files).score = (summary now files').score := by
  have hrated' : ∀ i ∈ found files', i.Rated := fun i hi =>
    hrated i ((found_perm h).mem_iff.mpr hi)
  rw [score_summary hrated, score_summary hrated', deductions_perm (found_perm h)]

theorem summary_perm (h : files.Perm files') (hrated : ∀ i ∈ found files, i.Rated)
    (hnames : ((counted files).map (·.file)).Nodup) (hwhole : ∀ m ∈ measured files, m.Whole)
    (now : Text) : (summary now files).Agrees (summary now files') where
  totalIssues := by rw [summary, summary, (found_perm h).length_eq]
  bySeverity := Entries.get?_tally_perm ((found_perm h).map _)
  byType := Entries.get?_tally_perm ((found_perm h).map _)
  byFile := get?_byFile_perm h hnames now
  metrics := by
    simp only [summary, Option.map_some]
    rw [sum_measured_perm h fun m hm => (hwhole m hm).linesOfCode,
      sum_measured_perm h fun m hm => (hwhole m hm).totalLines,
      sum_measured_perm h fun m hm => (hwhole m hm).functions,
      sum_measured_perm h fun m hm => (hwhole m hm).classes]
  score := score_perm h hrated now
  grade := congrArg Grade.ofScore (score_perm h hrated now)

/-- What files come to together does not depend on their order. -/
theorem aggregate_perm (h : files.Perm files') (hnames : ((counted files).map (·.file)).Nodup)
    (hwhole : ∀ m ∈ measured files, m.Whole) (now : Text) :
    Alike (aggregate now files) (aggregate now files') := by
  by_cases hrated : ∀ i ∈ found files, i.Rated
  · have hrated' : ∀ i ∈ found files', i.Rated := fun i hi =>
      hrated i ((found_perm h).mem_iff.mpr hi)
    rw [aggregate_of_rated now hrated, aggregate_of_rated now hrated']
    exact .result (summary_perm h hrated hnames hwhole now)
  -- An issue without a level makes both fail, and there is only one way to fail.
  · have hrated' : ¬ ∀ i ∈ found files', i.Rated := fun hall =>
      hrated fun i hi => hall i ((found_perm h).mem_iff.mp hi)
    rw [aggregate_of_unrated now hrated, aggregate_of_unrated now hrated']
    exact .failure _

/-! ## Files that may fail -/

/-- Reviews a file on a disk, unless some other trouble stops the review. Without any this is how
the files of a directory are reviewed. -/
def attempt (r : Reviewer) (disk : Disk) (trouble : Path → Option Failure) (p : Path) :
    Except Failure (Reviewed FileResult) :=
  match trouble p with
  | some f => .error f
  | none => r.reviewFile disk p p.toText

/-- A file is reviewed, or it is left out and has an empty result. -/
theorem reviewFile_cases {r : Reviewer} {disk : Disk} {p : Path} {shown : Text}
    {x : Reviewed FileResult} (h : r.reviewFile disk p shown = .ok x) :
    (∃ source, x = r.reviewSource source p.toText)
      ∨ x = ⟨{ file := p.toText, metrics := some {}, skipped := true }, []⟩ := by
  rw [reviewFile] at h
  split at h
  · exact absurd h (by simp [throw, throwThe, MonadExceptOf.throw, bind, Except.bind])
  · obtain ⟨looked, _, h⟩ := Steps.bind_ok h
    cases looked with
    | true =>
      obtain ⟨bytes, _, h⟩ := Steps.bind_ok h
      exact .inl ⟨_, (Except.ok.inj h).symm⟩
    | false => exact .inr (Except.ok.inj h).symm

/-- Bears the name of a path and has metrics that can be added up in any order. -/
structure Fits (f : FileResult) (p : Path) : Prop where
  file : f.file = p.toText
  whole : ∀ m, f.metrics = some m → m.Whole

theorem fits_of_reviewFile {r : Reviewer} {disk : Disk} {p : Path} {shown : Text}
    {x : Reviewed FileResult} (h : r.reviewFile disk p shown = .ok x) : Fits x.result p := by
  rcases reviewFile_cases h with ⟨source, rfl⟩ | rfl
  · refine ⟨rfl, fun m hm => ?_⟩
    rw [← Option.some.inj hm]
    exact Metrics.whole_measure _ _ _
  · refine ⟨rfl, fun m hm => ?_⟩
    rw [← Option.some.inj hm]
    exact Metrics.whole_none

theorem fits_of_attempt {r : Reviewer} {disk : Disk} {trouble : Path → Option Failure} {p : Path}
    {x : Reviewed FileResult} (h : r.attempt disk trouble p = .ok x) : Fits x.result p := by
  rw [attempt] at h
  split at h
  · exact absurd h (by simp)
  · exact fits_of_reviewFile h

/-- What a review adds to a list of results. -/
def given : Except Failure (Reviewed FileResult) → List FileResult
  | .ok x => [x.result]
  | .error _ => []

section

variable {r : Reviewer} {review : Path → Except Failure (Reviewed FileResult)} {paths : List Path}

theorem resultsOf_inTurn (r : Reviewer) (review : Path → Except Failure (Reviewed FileResult))
    (paths : List Path) :
    resultsOf (r.reviewInTurn review paths) = paths.flatMap fun p => given (review p) := by
  induction paths with
  | nil => rfl
  | cons p paths ih =>
    rw [List.flatMap_cons, ← ih, resultsOf, reviewInTurn, List.map_cons, List.filterMap_cons,
      reviewOneOf]
    cases review p <;> rfl

variable (hfits : ∀ p x, review p = .ok x → Fits x.result p)
include hfits

theorem fits_of_mem_given {p : Path} {f : FileResult} (hf : f ∈ given (review p)) : Fits f p := by
  cases hreview : review p with
  | ok x =>
    rw [hreview] at hf
    obtain rfl := List.mem_singleton.mp hf
    exact hfits p x hreview
  | error e =>
    rw [hreview] at hf
    exact absurd hf List.not_mem_nil

theorem whole_of_mem_inTurn :
    ∀ m ∈ measured (resultsOf (r.reviewInTurn review paths)), m.Whole := by
  intro m hm
  obtain ⟨f, hf, hmetrics⟩ := List.mem_filterMap.mp hm
  have hin := List.mem_of_mem_filter hf
  rw [resultsOf_inTurn] at hin
  obtain ⟨p, _, hgiven⟩ := List.mem_flatMap.mp hin
  exact (fits_of_mem_given hfits hgiven).whole m hmetrics

/-- The results bear the names of different paths. -/
theorem names_inTurn_sublist :
    ((resultsOf (r.reviewInTurn review paths)).map (·.file)).Sublist (paths.map Path.toText) := by
  rw [resultsOf_inTurn]
  induction paths with
  | nil => exact .refl _
  | cons p paths ih =>
    rw [List.flatMap_cons, List.map_append, List.map_cons]
    cases hreview : review p with
    | ok x =>
      have hname : x.result.file = p.toText := (hfits p x hreview).file
      simp only [given, List.map_cons, List.map_nil, hname, List.cons_append, List.nil_append]
      exact ih.cons_cons _
    | error e => exact ih.cons _

theorem filter_given (p : Path) (name : Text) :
    (given (review p)).filter (fun f => f.file = name)
      = if p.toText = name then given (review p) else [] := by
  have hname : ∀ f ∈ given (review p), f.file = p.toText := fun f hf =>
    (fits_of_mem_given hfits hf).file
  split
  · next heq => exact List.filter_eq_self.mpr fun f hf => by simp [hname f hf, heq]
  · next hne => exact List.filter_eq_nil_iff.mpr fun f hf => by simp [hname f hf, hne]

/-- Of different files each has its result once, or none if it could not be reviewed. -/
theorem filter_inTurn (hpaths : (paths.map Path.toText).Nodup) {p : Path} (hp : p ∈ paths) :
    (resultsOf (r.reviewInTurn review paths)).filter (fun f => f.file = p.toText)
      = given (review p) := by
  rw [resultsOf_inTurn, List.filter_flatMap]
  simp only [filter_given hfits]
  induction paths with
  | nil => exact absurd hp List.not_mem_nil
  | cons q paths ih =>
    -- Either the first path is the one in question and no later one bears its name, or it adds
    -- nothing that bears the name.
    rw [List.map_cons, List.nodup_cons] at hpaths
    rw [List.flatMap_cons]
    rcases List.mem_cons.mp hp with rfl | hin
    · have hothers : ∀ x ∈ paths, (if x.toText = p.toText then given (review x) else []) = [] := by
        intro x hx
        have hne : x.toText ≠ p.toText := fun heq => hpaths.1 (heq ▸ List.mem_map_of_mem hx)
        rw [if_neg hne]
      rw [if_pos rfl, List.flatMap_eq_nil_iff.mpr hothers, List.append_nil]
    · have hne : q.toText ≠ p.toText := fun heq => hpaths.1 (heq ▸ List.mem_map_of_mem hin)
      rw [if_neg hne, List.nil_append]
      exact ih hpaths.2 hin

end

/-! ## Side by side -/

theorem resultsOf_perm {as bs : List (Reviewed (Option FileResult))} (h : as.Perm bs) :
    (resultsOf as).Perm (resultsOf bs) :=
  h.filterMap _

/-- A list that is another one in some order has the same members of a kind if there is at most one
of the kind. -/
theorem filter_given_of_perm {fs gs : List FileResult} {test : FileResult → Bool}
    {outcome : Except Failure (Reviewed FileResult)} (h : fs.Perm gs)
    (hgs : gs.filter test = given outcome) : fs.filter test = given outcome := by
  have hp : (fs.filter test).Perm (given outcome) := hgs ▸ h.filter test
  cases outcome with
  | ok x => exact List.perm_singleton.mp hp
  | error e => exact hp.eq_nil

/-- Several workers give what one review after the other gives: whichever files fail, and in
whatever order the others end, each file that can be reviewed has its result once, and together
they come to the same. Every order can come about, and the workers are never stuck. -/
theorem sideBySide_agrees (r : Reviewer) (disk : Disk) (trouble : Path → Option Failure)
    (now : Text) {workers : Nat} (hworkers : 0 < workers) {paths : List Path}
    (hpaths : (paths.map Path.toText).Nodup) :
    let review := r.attempt disk trouble
    let work := r.reviewOneOf review
    let inTurn := resultsOf (r.reviewInTurn review paths)
    (∀ pool, Pool.Runs work (.new workers paths) pool →
      ∃ last, Pool.Runs work pool last ∧ last.Done)
    ∧ Pool.Yields work workers paths (r.reviewSideBySide review workers paths)
    ∧ (∀ out, Pool.Yields work workers paths out ↔ out.Perm (r.reviewInTurn review paths))
    ∧ ∀ out, Pool.Yields work workers paths out →
      (resultsOf out).Perm inTurn
      ∧ (∀ p ∈ paths, (resultsOf out).filter (fun f => f.file = p.toText) = given (review p))
      ∧ Alike (aggregate now (resultsOf out)) (aggregate now inTurn) := by
  intro review work inTurn
  have hfits : ∀ p x, review p = .ok x → Fits x.result p := fun p x => fits_of_attempt
  refine ⟨fun pool hruns => Pool.exists_runs_done hruns hworkers,
    Pool.yields_drain work hworkers paths, fun out => Pool.yields_iff_perm hworkers,
    fun out hout => ?_⟩
  have hperm : (resultsOf out).Perm inTurn := resultsOf_perm (Pool.perm_of_yields hout)
  have hnames : (inTurn.map (·.file)).Nodup := hpaths.sublist (names_inTurn_sublist hfits)
  have hcounted : ((counted (resultsOf out)).map (·.file)).Nodup := by
    have harrived : ((resultsOf out).map (·.file)).Nodup := (hperm.map _).nodup_iff.mpr hnames
    exact harrived.sublist (List.filter_sublist.map _)
  have hwhole : ∀ m ∈ measured (resultsOf out), m.Whole := fun m hm =>
    whole_of_mem_inTurn hfits m ((measured_perm hperm).mem_iff.mp hm)
  exact ⟨hperm, fun p hp => filter_given_of_perm hperm (filter_inTurn hfits hpaths hp),
    aggregate_perm hperm hcounted hwhole now⟩

/-- Two sources that can be reviewed, a directory with the name of a source, and one more source. -/
def mixedDisk : Disk where
  items :=
    [([], .directory), (["a.py"], .file []), (["b.py"], .directory), (["c.py"], .file []),
      (["d.py"], .file [])]
  home := []

def mixedPaths : List Path :=
  [⟨[], ["a.py"]⟩, ⟨[], ["b.py"]⟩, ⟨[], ["c.py"]⟩, ⟨[], ["d.py"]⟩]

/-- Trouble with one source. -/
def lost (p : Path) : Option Failure :=
  if p.name = "c.py".toList then some (.fileNotFound p.toText) else none

theorem sideBySide_agrees_backwards :
    let r : Reviewer := { settings := .standard, analyzers := builtin .standard }
    let review := r.attempt mixedDisk lost
    let backwards := (r.reviewInTurn review mixedPaths).reverse
    0 < 2 ∧ (mixedPaths.map Path.toText).Nodup
      ∧ (mixedPaths.map fun p => (given (review p)).length) = [1, 0, 0, 1]
      ∧ (resultsOf backwards).Perm (resultsOf (r.reviewInTurn review mixedPaths))
      ∧ Alike (aggregate [] (resultsOf backwards))
        (aggregate [] (resultsOf (r.reviewInTurn review mixedPaths))) := by
  intro r review backwards
  have hpaths : (mixedPaths.map Path.toText).Nodup := by decide
  have hagrees := sideBySide_agrees r mixedDisk lost [] (show 0 < 2 by decide) hpaths
  have hout := (hagrees.2.2.1 backwards).mpr (List.reverse_perm _)
  obtain ⟨hperm, _, halike⟩ := hagrees.2.2.2 backwards hout
  exact ⟨by decide, hpaths, by decide +kernel, hperm, halike⟩

end Reviewer

end CodeReview
