import CodeReview.Proofs.Commands

/-!
# Presets on the command line

A review of a file with the flag of a preset takes the limits and the analyzers of the preset, but
not its minimum: the command sets the minimum itself, to `info` if nothing else is asked for. So the
command shows all that a reviewer with the preset finds, and the reviewer reports only what is bad
enough for the preset. They agree where nothing that is found is too mild, and so they always agree
on security, of which nothing is mild.
-/

namespace CodeReview.Command

open Reviewer

/-- The settings that have a flag. -/
inductive Preset where
  | strict
  | relaxed
  | securityOnly
  deriving DecidableEq, Repr

namespace Preset

def settings : Preset → Settings
  | strict => .strict
  | relaxed => .relaxed
  | securityOnly => .securityOnly

def key : Preset → Text
  | strict => "strict"
  | relaxed => "relaxed"
  | securityOnly => "security-only"

def flag (p : Preset) : Text :=
  "--" ++ p.key

/-- The options of a command line with the flag and no other option. -/
def options (p : Preset) : Entries Text :=
  [(p.key, [])]

/-- The mildest level that a reviewer with the preset reports. -/
def minimum : Preset → Severity
  | strict => .low
  | relaxed => .high
  | securityOnly => .medium

def reviewer (p : Preset) : Reviewer :=
  { settings := p.settings, analyzers := chosen p.settings [] }

variable (p : Preset)

theorem new_settings : Reviewer.new p.settings [] = .ok p.reviewer := by
  cases p <;> rfl

theorem minSeverity_settings : p.settings.minSeverity = p.minimum.toText := by
  cases p <;> rfl

theorem ignoresByTexts_settings : p.settings.IgnoresByTexts := by
  have h := Settings.standard_ignoresByTexts
  cases p <;> exact ⟨h.paths, h.files⟩

theorem mem_builtin_of_mem_reviewer : ∀ a ∈ p.reviewer.analyzers, a ∈ builtin p.settings := by
  intro a ha
  rcases List.mem_append.mp ha with hin | hin
  · exact List.mem_of_mem_filter hin
  · exact absurd hin List.not_mem_nil

/-- The flag brings the settings of the preset, and the command the mildest minimum. -/
theorem settingsOf_options : settingsOf p.options = p.settings.withMinimum "info" := by
  cases p <;> rfl

theorem new_settingsOf_options :
    Reviewer.new (settingsOf p.options) [] = .ok (p.reviewer.withMinimum "info") := by
  rw [settingsOf_options, new_withMinimum, new_settings]
  rfl

theorem read_flag {path : Text} (h : path.head? ≠ some '-') :
    Request.read ["review", path, p.flag] = .ok (.review path p.options) := by
  have hgeneral : general.marks [p.flag] = .ok [⟨p.flag, .option none⟩] := by
    cases p <;> rfl
  have hoption : review.option? p.flag = some (switch p.key p.flag) := by
    cases p <;> rfl
  have hseparator : p.flag ≠ "--".toList := by
    cases p <;> decide
  have hread := Grammar.read_switch (g := review) rfl h hoption rfl hseparator rfl
  exact read_of_command (by decide) (Grammar.marks_operand h hgeneral) (ofCommand_review hread)

end Preset

/-- A review of a file with the flag of a preset shows all that the preset finds. -/
theorem run_flag (now : Text) {disk : Disk} {path : Text} (hpath : path.head? ≠ some '-')
    (hfile : disk.isFile (Path.ofText path) = true) (p : Preset) {shown : Reviewed FileResult}
    (h : (p.reviewer.withMinimum "info").reviewFile disk (Path.ofText path)
      (Path.ofText path).toText = .ok shown) :
    ∃ report, Report.Terminal.format {} (.file shown.result) = .ok report
      ∧ run now disk ["review", path, p.flag]
        = .ok (finish disk (if shown.result.issues.isEmpty then 0 else 1)
            ["Reviewing: " ++ (Path.ofText path).toText, [], report]) := by
  have hquiet : (p.reviewer.withMinimum "info").settings.verbose.holds = false := by
    cases p <;> rfl
  have hparallel : (!p.options.has "no-parallel") = true := by
    cases p <;> rfl
  have hreview : reviewAt (p.reviewer.withMinimum "info") now disk (Path.ofText path)
      (!p.options.has "no-parallel") = .ok ⟨.file shown.result, shown.messages⟩ := by
    rw [hparallel, reviewAt, hfile, if_pos rfl, h]
    rfl
  have hrated : ∀ i ∈ shown.result.issues, i.Rated :=
    (sound_of_reviewFile (r := p.reviewer.withMinimum "info") p.mem_builtin_of_mem_reviewer h).rated
  obtain ⟨report, hreport⟩ := Report.Terminal.exists_format {} (o := .file shown.result) hrated
  have hformat : p.options.get? "format" = none := by
    cases p <;> rfl
  have houtput : p.options.get? "output" = none := by
    cases p <;> rfl
  have hshown := runReview_shown (Disk.has_of_isFile hfile) p.new_settingsOf_options hreview rfl
    hformat houtput hreport
  refine ⟨report, hreport, ?_⟩
  rw [run, p.read_flag hpath]
  change runReview now disk path _ = _
  rw [hshown, messages_reviewFile hquiet h]
  rfl

/-- Nothing that has to do with security is too mild for the preset that asks for nothing else. -/
theorem atLeast_of_mem_securityOnly {disk : Disk} {path : Path} {shown : Text}
    {x : Reviewed FileResult}
    (h : (Preset.securityOnly.reviewer.withMinimum "info").reviewFile disk path shown = .ok x) :
    ∀ i ∈ x.result.issues, i.AtLeast .medium := by
  rcases reviewFile_cases h with ⟨source, rfl⟩ | rfl
  · intro i hi
    rw [result_reviewSource] at hi
    change i ∈ [Analysis.security].flatMap _ at hi
    rw [List.flatMap_singleton] at hi
    simp only [within, Analysis.security, Analyzer.onTree] at hi
    split at hi
    · unfold kept at hi
      split at hi
      · next hfound =>
        exact (Analysis.found_of_mem_securityIssues hfound i (List.mem_of_mem_filter hi)).atLeast
      · exact absurd hi List.not_mem_nil
    · exact absurd hi List.not_mem_nil
  · exact List.forall_mem_nil _

/-- What a review of a file with the flag of a preset shows, beside what a reviewer with the preset
reports: the reviewer leaves out what is milder than the minimum of the preset, and the command does
not. -/
theorem run_review_flag (now : Text) {disk : Disk} {path : Text} (hpath : path.head? ≠ some '-')
    (hfile : disk.isFile (Path.ofText path) = true) (p : Preset) :
    ∃ r shown reported report,
      Reviewer.new p.settings [] = .ok r
      ∧ (r.withMinimum "info").reviewFile disk (Path.ofText path) (Path.ofText path).toText
        = .ok shown
      ∧ r.reviewFile disk (Path.ofText path) (Path.ofText path).toText = .ok reported
      ∧ Report.Terminal.format {} (.file shown.result) = .ok report
      ∧ run now disk ["review", path, p.flag]
        = .ok (finish disk (if shown.result.issues.isEmpty then 0 else 1)
            ["Reviewing: " ++ (Path.ofText path).toText, [], report])
      ∧ reported.result = thin p.settings shown.result
      ∧ (∀ i, i ∈ reported.result.issues ↔ i ∈ shown.result.issues ∧ i.AtLeast p.minimum)
      ∧ (shown.result = reported.result ↔ ∀ i ∈ shown.result.issues, i.AtLeast p.minimum)
      ∧ (p = .securityOnly → shown.result = reported.result) := by
  have hignores := p.ignoresByTexts_settings
  obtain ⟨shown, hshown⟩ := exists_reviewFile (r := p.reviewer.withMinimum "info")
    ⟨hignores.paths, hignores.files⟩ hfile (Path.ofText path).toText
  obtain ⟨report, hreport, hrun⟩ := run_flag now hpath hfile p hshown
  have hrated : shown.result.Rated := (sound_of_reviewFile
    (r := p.reviewer.withMinimum "info") p.mem_builtin_of_mem_reviewer hshown).rated
  have hreported : p.reviewer.reviewFile disk (Path.ofText path) (Path.ofText path).toText
      = .ok (shown.map (thin p.settings)) := by
    -- The minimum of the preset is one like any other that could take the place of `info`.
    have hleast := p.reviewer.reviewFile_withMinimum p.settings.minSeverity disk
      (Path.ofText path) (Path.ofText path).toText
    rw [hshown] at hleast
    exact hleast
  have hsame := eq_thin_iff p.minSeverity_settings hrated
  refine ⟨p.reviewer, shown, shown.map (thin p.settings), report, p.new_settings, hshown, hreported,
    hreport, hrun, rfl, fun i => mem_keep p.minSeverity_settings hrated, hsame, ?_⟩
  rintro rfl
  exact hsame.mpr (atLeast_of_mem_securityOnly hshown)

theorem looksAt_todo (p : Preset) : p.reviewer.looksAt (Path.ofText "a.py") = .ok true := by
  cases p <;> rfl

theorem shown_todo :
    ((Preset.strict.reviewer.withMinimum "info").reviewSource "# TODO" "a.py").result.issues.isEmpty
      = false := by
  decide +kernel

theorem reported_todo :
    (Preset.strict.reviewer.reviewSource "# TODO" "a.py").result.issues.isEmpty = true := by
  decide +kernel

theorem run_review_flag_todo :
    "a.py".toList.head? ≠ some '-' ∧ todoDisk.isFile (Path.ofText "a.py") = true
      ∧ ∃ r shown reported,
        Reviewer.new Preset.strict.settings [] = .ok r
        ∧ (r.withMinimum "info").reviewFile todoDisk (Path.ofText "a.py")
          (Path.ofText "a.py").toText = .ok shown
        ∧ r.reviewFile todoDisk (Path.ofText "a.py") (Path.ofText "a.py").toText = .ok reported
        ∧ shown.result ≠ reported.result := by
  have hpath : "a.py".toList.head? ≠ some '-' := by decide
  have hfile : todoDisk.isFile (Path.ofText "a.py") = true := by decide
  obtain ⟨r, shown, reported, _, hr, hshown, hreported, _⟩ :=
    run_review_flag [] hpath hfile .strict
  refine ⟨hpath, hfile, r, shown, reported, hr, hshown, hreported, fun heq => ?_⟩
  obtain rfl := Except.ok.inj (Preset.strict.new_settings.symm.trans hr)
  rw [reviewFile_todo (Preset.strict.reviewer.withMinimum "info") (looksAt_todo .strict)] at hshown
  rw [reviewFile_todo Preset.strict.reviewer (looksAt_todo .strict)] at hreported
  obtain rfl := Except.ok.inj hshown
  obtain rfl := Except.ok.inj hreported
  have hsome := shown_todo
  rw [heq, reported_todo] at hsome
  exact absurd hsome (by decide)

/-- With strict settings a mark for work to be done is not reported, and the command shows it. -/
theorem run_strict_flag_differs :
    ∃ r reported report, Reviewer.new Settings.strict [] = .ok r
      ∧ r.reviewFile todoDisk (Path.ofText "a.py") (Path.ofText "a.py").toText = .ok reported
      ∧ Report.Terminal.format {} (.file reported.result) = .ok report
      ∧ run [] todoDisk ["review", "a.py", "--strict"]
        ≠ .ok (finish todoDisk (if reported.result.issues.isEmpty then 0 else 1)
            ["Reviewing: " ++ (Path.ofText "a.py").toText, [], report]) := by
  have hshown := reviewFile_todo (Preset.strict.reviewer.withMinimum "info") (looksAt_todo .strict)
  have hreported := reviewFile_todo Preset.strict.reviewer (looksAt_todo .strict)
  have hsound := sound_of_reviewFile Preset.strict.mem_builtin_of_mem_reviewer hreported
  obtain ⟨report, hreport⟩ := Report.Terminal.exists_format {} (o := .file _) hsound.rated
  have hpath : "a.py".toList.head? ≠ some '-' := by decide
  obtain ⟨_, _, hrun⟩ := run_flag [] hpath (by decide) .strict hshown
  refine ⟨Preset.strict.reviewer, _, report, Preset.strict.new_settings, hreported, hreport, ?_⟩
  intro heq
  have hcode := congrArg Finished.code (Except.ok.inj (hrun.symm.trans heq))
  rw [shown_todo, reported_todo] at hcode
  exact absurd hcode Nat.one_ne_zero

end CodeReview.Command
