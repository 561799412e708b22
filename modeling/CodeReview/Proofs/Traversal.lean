import CodeReview.Proofs.Arrival
import CodeReview.Proofs.Threshold

/-!
# What a path leads to

A path leads to a file, or to the sources in a directory. `Reviewer.gather` reviews these one after
the other. A review of a directory gives the same results, whatever the number of workers, with the
files in some order, and fails where gathering fails. A minimum makes no difference to which files
are looked at, and leaves out of their results what is too mild.
-/

namespace CodeReview

open Reviewer

/-! ## Which files are looked at -/

namespace Settings

theorem exists_anyOf {α : Type} {test : α → Except Failure Bool} {as : List α}
    (h : ∀ a ∈ as, ∃ b, test a = .ok b) : ∃ b, anyOf test as = .ok b := by
  induction as with
  | nil => exact ⟨false, rfl⟩
  | cons a as ih =>
    obtain ⟨b, hb⟩ := h a List.mem_cons_self
    rw [anyOf, hb]
    cases b with
    | true => exact ⟨true, rfl⟩
    | false => exact ih fun x hx => h x (List.mem_cons_of_mem _ hx)

/-- Settings that leave out files by texts, none of which is empty as a path. -/
structure IgnoresByTexts (s : Settings) : Prop where
  paths : ∃ ts, s.ignorePaths = .proper ts
  files : ∃ ts, s.ignoreFiles = .proper ts ∧ ∀ t ∈ ts, (Path.ofText t).parts.isEmpty = false

theorem standard_ignoresByTexts : standard.IgnoresByTexts :=
  ⟨⟨_, rfl⟩, _, rfl, by decide⟩

end Settings

theorem Path.exists_fits (p : Path) {pattern : Text}
    (h : (Path.ofText pattern).parts.isEmpty = false) : ∃ b, p.fits pattern = .ok b := by
  unfold fits
  simp only [h, Bool.false_eq_true, if_false]
  split
  · exact ⟨_, rfl⟩
  · exact ⟨_, rfl⟩

theorem Disk.has_of_isFile {d : Disk} {p : Path} (h : d.isFile p = true) : d.has p = true := by
  unfold isFile at h
  split at h
  · next hfind => rw [has, hfind]; rfl
  · exact nomatch h

namespace Reviewer

theorem exists_looksAt {r : Reviewer} (h : r.settings.IgnoresByTexts) (p : Path) :
    ∃ b, r.looksAt p = .ok b := by
  obtain ⟨⟨paths, hpaths⟩, files, hfiles, hparts⟩ := h
  have hinPath : ∃ b, Settings.anyOf (fun v => Settings.partOf v p.toText)
      (paths.map Value.text) = .ok b := by
    apply Settings.exists_anyOf
    intro v hv
    obtain ⟨t, _, rfl⟩ := List.mem_map.mp hv
    exact ⟨_, rfl⟩
  have hfitting : ∃ b, Settings.anyOf (Settings.pathFits p) (files.map Value.text) = .ok b := by
    apply Settings.exists_anyOf
    intro v hv
    obtain ⟨t, ht, rfl⟩ := List.mem_map.mp hv
    exact p.exists_fits (hparts t ht)
  obtain ⟨inPath, hinPath⟩ := hinPath
  obtain ⟨fitting, hfitting⟩ := hfitting
  unfold looksAt
  simp only [hpaths, hfiles, Setting.members]
  split
  · exact ⟨false, rfl⟩
  · change ∃ b, (Settings.anyOf _ (paths.map Value.text) >>= _) = _
    rw [hinPath]
    cases inPath with
    | true => exact ⟨false, rfl⟩
    | false =>
      change ∃ b, (Settings.anyOf _ (files.map Value.text) >>= _) = _
      rw [hfitting]
      exact ⟨!fitting, rfl⟩

/-- Nothing stops the review of a file that is there. -/
theorem exists_reviewFile {r : Reviewer} (h : r.settings.IgnoresByTexts) {disk : Disk} {p : Path}
    (hfile : disk.isFile p = true) (shown : Text) : ∃ x, r.reviewFile disk p shown = .ok x := by
  obtain ⟨looked, hlooked⟩ := exists_looksAt h p
  have hread : ∃ bytes, disk.read p = .ok bytes := by
    unfold Disk.isFile at hfile
    split at hfile
    · next bytes hfind => exact ⟨bytes, by rw [Disk.read, Disk.readAs, hfind]⟩
    · exact nomatch hfile
  obtain ⟨bytes, hread⟩ := hread
  unfold reviewFile
  rw [Disk.has_of_isFile hfile, hlooked, hread]
  cases looked with
  | true => exact ⟨_, rfl⟩
  | false => exact ⟨_, rfl⟩

/-! ## Results of files -/

/-- A review that is not talkative says nothing on the way. -/
theorem messages_reviewFile {r : Reviewer} (hquiet : r.settings.verbose.holds = false)
    {disk : Disk} {p : Path} {shown : Text} {x : Reviewed FileResult}
    (h : r.reviewFile disk p shown = .ok x) : x.messages = [] := by
  rcases reviewFile_cases h with ⟨source, rfl⟩ | rfl
  · change (r.analyzers.map _).flatMap _ = []
    rw [List.flatMap_map, List.flatMap_eq_nil_iff]
    intro a _
    unfold runOne
    cases a.run _ _ with
    | ok issues => rfl
    | error f => simp only [hquiet, Bool.false_eq_true, if_false]
  · rfl

end Reviewer

/-- Rated with levels, and without issues if the file was left out. -/
structure FileResult.Sound (f : FileResult) : Prop where
  rated : f.Rated
  skipped : f.skipped = true → f.issues = []

namespace Reviewer

theorem sound_of_reviewFile {r : Reviewer} {s : Settings}
    (hbuiltin : ∀ a ∈ r.analyzers, a ∈ builtin s) {disk : Disk} {p : Path} {shown : Text}
    {x : Reviewed FileResult} (h : r.reviewFile disk p shown = .ok x) : x.result.Sound := by
  rcases reviewFile_cases h with ⟨source, rfl⟩ | rfl
  · exact ⟨rated_of_mem_reviewSource hbuiltin source p.toText, nofun⟩
  · exact ⟨List.forall_mem_nil _, fun _ => rfl⟩

theorem rated_flatMap_issues {files : List FileResult} (h : ∀ f ∈ files, f.Sound) :
    ∀ i ∈ files.flatMap (·.issues), i.Rated := by
  intro i hi
  obtain ⟨f, hf, hin⟩ := List.mem_flatMap.mp hi
  exact (h f hf).rated i hin

/-- Leaving out the files that were skipped leaves out no issue. -/
theorem found_of_sound {files : List FileResult} (h : ∀ f ∈ files, f.Sound) :
    found files = files.flatMap (·.issues) := by
  induction files with
  | nil => rfl
  | cons f files ih =>
    have hrest := ih fun g hg => h g (List.mem_cons_of_mem _ hg)
    rw [List.flatMap_cons, ← hrest, found, found, counted, List.filter_cons]
    cases hskipped : f.skipped with
    | true => rw [(h f List.mem_cons_self).skipped hskipped]; rfl
    | false => rfl

/-! ## Files and directories -/

/-- The results of the files that a path leads to, one after the other. -/
def gather (r : Reviewer) (disk : Disk) (p : Path) : Except Failure (List FileResult) :=
  if disk.isFile p then (r.reviewFile disk p p.toText).map fun x => [x.result]
  else if !disk.has p then .error (.directoryNotFound p.toText)
  else if !disk.isDirectory p then .error (.notADirectory p.toText)
  else (r.collect disk p true).map fun paths =>
    paths.flatMap fun q => given (r.reviewFile disk q q.toText)

theorem sound_of_mem_gather {r : Reviewer} {s : Settings}
    (hbuiltin : ∀ a ∈ r.analyzers, a ∈ builtin s) {disk : Disk} {p : Path}
    {files : List FileResult} (h : r.gather disk p = .ok files) : ∀ f ∈ files, f.Sound := by
  have hgiven : ∀ q, ∀ f ∈ given (r.reviewFile disk q q.toText), f.Sound := by
    intro q f hf
    cases hreview : r.reviewFile disk q q.toText with
    | ok x =>
      rw [hreview] at hf
      rw [List.mem_singleton.mp hf]
      exact sound_of_reviewFile hbuiltin hreview
    | error e =>
      rw [hreview] at hf
      exact absurd hf List.not_mem_nil
  unfold gather at h
  split at h
  · cases hreview : r.reviewFile disk p p.toText with
    | ok x =>
      rw [hreview] at h
      obtain rfl := Except.ok.inj h
      exact List.forall_mem_singleton.mpr (sound_of_reviewFile hbuiltin hreview)
    | error e =>
      rw [hreview] at h
      exact nomatch h
  split at h
  · exact nomatch h
  split at h
  · exact nomatch h
  · cases hcollect : r.collect disk p true with
    | ok paths =>
      rw [hcollect] at h
      obtain rfl := Except.ok.inj h
      intro f hf
      obtain ⟨q, _, hin⟩ := List.mem_flatMap.mp hf
      exact hgiven q f hin
    | error e =>
      rw [hcollect] at h
      exact nomatch h

section

variable (r : Reviewer) (least : Text)

theorem given_withMinimum (disk : Disk) (p : Path) (shown : Text) :
    given ((r.withMinimum least).reviewFile disk p shown)
      = (given ((r.withMinimum "info").reviewFile disk p shown)).map
          (thin (r.settings.withMinimum least)) := by
  rw [reviewFile_withMinimum]
  cases (r.withMinimum "info").reviewFile disk p shown <;> rfl

theorem collect_withMinimum (disk : Disk) (p : Path) (deep : Bool) :
    (r.withMinimum least).collect disk p deep = (r.withMinimum "info").collect disk p deep :=
  rfl

/-- The minimum makes no difference but for what it leaves out of the files. -/
theorem gather_withMinimum (disk : Disk) (p : Path) :
    (r.withMinimum least).gather disk p
      = ((r.withMinimum "info").gather disk p).map
          (List.map (thin (r.settings.withMinimum least))) := by
  unfold gather
  split
  · rw [reviewFile_withMinimum]
    cases (r.withMinimum "info").reviewFile disk p p.toText <;> rfl
  split
  · rfl
  split
  · rfl
  · rw [collect_withMinimum]
    cases (r.withMinimum "info").collect disk p true with
    | error f => rfl
    | ok paths =>
      simp only [Except.map, given_withMinimum r least, List.map_flatMap]

end

theorem flatMap_issues_thin (s : Settings) (files : List FileResult) :
    (files.map (thin s)).flatMap (·.issues) = keep s (files.flatMap (·.issues)) := by
  rw [List.flatMap_map, keep_flatMap]
  rfl

end Reviewer

/-- Lists files in some order, and counts their issues. -/
structure ReviewResult.Tells (r : ReviewResult) (files : List FileResult) : Prop where
  listed : r.files.Perm files
  total : r.totalIssues = (files.flatMap (·.issues)).length

namespace Reviewer

theorem aggregate_tells (now : Text) {results files : List FileResult} (h : results.Perm files)
    (hsound : ∀ f ∈ files, f.Sound) : ∃ r, aggregate now results = .ok r ∧ r.Tells files := by
  have hresults : ∀ f ∈ results, f.Sound := fun f hf => hsound f (h.mem_iff.mp hf)
  have hrated := rated_of_mem_found fun f hf => (hresults f hf).rated
  refine ⟨summary now results, aggregate_of_rated now hrated, h, ?_⟩
  change ((found results).length : Int) = _
  rw [(found_perm h).length_eq, found_of_sound hsound]

theorem resultsOf_perm_given (r : Reviewer) (review : Path → Except Failure (Reviewed FileResult))
    (sideBySide : Bool) {workers : Nat} (hworkers : 0 < workers) (paths : List Path) :
    (resultsOf (if sideBySide then r.reviewSideBySide review workers paths
      else r.reviewInTurn review paths)).Perm (paths.flatMap fun p => given (review p)) := by
  rw [← resultsOf_inTurn r]
  cases sideBySide with
  | true => exact resultsOf_perm (Pool.perm_of_yields (Pool.yields_drain _ hworkers paths))
  | false => exact .refl _

/-- A review of a directory gives what gathering gives, and fails where gathering fails. -/
theorem reviewDirectory_tells {r : Reviewer} {s : Settings}
    (hbuiltin : ∀ a ∈ r.analyzers, a ∈ builtin s) (now : Text) {disk : Disk} {p : Path}
    (hfile : disk.isFile p = false) {t : Traversal} (hdeep : t.deep = true)
    (hworkers : 0 < t.workers) :
    (∃ f, r.gather disk p = .error f ∧ r.reviewDirectory now disk p p.toText t = .error f)
      ∨ ∃ files x, r.gather disk p = .ok files
        ∧ r.reviewDirectory now disk p p.toText t = .ok x ∧ x.result.Tells files := by
  have hsound : ∀ files, r.gather disk p = .ok files → ∀ f ∈ files, f.Sound := fun files =>
    sound_of_mem_gather hbuiltin
  unfold reviewDirectory
  unfold gather at hsound ⊢
  rw [if_neg (by simp [hfile])] at hsound ⊢
  cases hhas : disk.has p with
  | false => exact .inl ⟨_, rfl, rfl⟩
  | true =>
    cases hdirectory : disk.isDirectory p with
    | false => exact .inl ⟨_, rfl, rfl⟩
    | true =>
      rw [hhas, hdirectory] at hsound
      rw [hdeep]
      cases hcollect : r.collect disk p true with
      | error f => exact .inl ⟨f, rfl, rfl⟩
      | ok paths =>
        rw [hcollect] at hsound
        have hfiles := hsound _ rfl
        right
        cases paths with
        | nil => exact ⟨[], _, rfl, rfl, .refl _, rfl⟩
        | cons q qs =>
          let sideBySide := t.parallel && decide (1 < (q :: qs).length)
          let review p := r.reviewFile disk p p.toText
          let reviewed := if sideBySide then r.reviewSideBySide review t.workers.toNat (q :: qs)
            else r.reviewInTurn review (q :: qs)
          -- There are workers, so nothing but the reviews themselves can fail, and that is settled
          -- file by file.
          have henough : (sideBySide && decide (t.workers ≤ 0)) = false := by
            rw [decide_eq_false (by omega), Bool.and_false]
          have hperm := resultsOf_perm_given r review sideBySide
            (by omega : 0 < t.workers.toNat) (q :: qs)
          obtain ⟨result, hresult, htells⟩ := aggregate_tells now hperm hfiles
          refine ⟨_, ⟨result, reviewed.flatMap (·.messages)⟩, rfl, ?_, htells⟩
          change (if (sideBySide && decide (t.workers ≤ 0)) = true then _ else
            aggregate now (resultsOf reviewed) >>= _) = _
          rw [henough, hresult]
          rfl

end Reviewer

end CodeReview
