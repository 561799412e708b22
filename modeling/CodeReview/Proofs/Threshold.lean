import CodeReview.Proofs.Analyzers
import CodeReview.Proofs.Findings
import CodeReview.Review.Paths
import CodeReview.Settings.Reader

/-!
# The least severity that is reported

No analyzer reads the minimum. So with any minimum a review finds what it finds without one, and
leaves out what is too mild; nothing else about the result changes. A minimum can be written in any
case, and settings read it in any case, but a review takes a word that is not in lower case for no
level at all and then leaves out nothing.
-/

namespace CodeReview

/-- The same settings with another minimum. -/
def Settings.withMinimum (s : Settings) (least : Text) : Settings :=
  { s with minSeverity := least }

/-- A reviewer that looks for the same with another minimum. -/
def Reviewer.withMinimum (r : Reviewer) (least : Text) : Reviewer :=
  { r with settings := r.settings.withMinimum least }

def Reviewed.map {α β : Type} (f : α → β) (x : Reviewed α) : Reviewed β :=
  { result := f x.result, messages := x.messages }

/-- What is left of a result where settings leave out what is too mild. -/
def Reviewer.thin (s : Settings) (f : FileResult) : FileResult :=
  { f with issues := keep s f.issues }

/-! ## Leaving out -/

theorem Issue.Rated.atLeast_iff {i : Issue} (h : i.Rated) (s : Severity) :
    i.AtLeast s ↔ i.severity.rank ≤ s.rank := by
  obtain ⟨t, ht⟩ := h
  constructor
  · rintro ⟨k, hk, hle⟩
    rw [hk]
    exact hle
  · intro hle
    rw [ht] at hle
    exact ⟨t, ht, hle⟩

theorem Rating.ofText_toText (s : Severity) : Rating.ofText s.toText = .level s := by
  rw [ofText, Severity.ofText?_toText]

theorem Rating.rank_le (r : Rating) : r.rank ≤ 4 := by
  cases r with
  | level s => cases s <;> decide
  | other t => exact Nat.le_refl 4

namespace Reviewer

theorem keep_info (s : Settings) (issues : List Issue) :
    keep (s.withMinimum "info") issues = issues := by
  apply List.filter_eq_self.mpr
  intro i _
  exact decide_eq_true i.severity.rank_le

theorem mem_keep {s : Settings} {l : Severity} (h : s.minSeverity = l.toText) {issues : List Issue}
    (hrated : ∀ i ∈ issues, i.Rated) {i : Issue} :
    i ∈ keep s issues ↔ i ∈ issues ∧ i.AtLeast l := by
  have hleast : (Rating.ofText s.minSeverity).rank = l.rank := by
    rw [h, Rating.ofText_toText]
    rfl
  rw [keep, List.mem_filter, hleast, decide_eq_true_iff]
  exact and_congr_right fun hi => ((hrated i hi).atLeast_iff l).symm

/-- A minimum makes no difference to a result just if nothing in it is too mild. -/
theorem eq_thin_iff {s : Settings} {l : Severity} (h : s.minSeverity = l.toText) {f : FileResult}
    (hrated : f.Rated) : f = thin s f ↔ ∀ i ∈ f.issues, i.AtLeast l := by
  constructor
  · intro heq i hi
    have hissues : f.issues = keep s f.issues := congrArg FileResult.issues heq
    rw [hissues] at hi
    exact ((mem_keep h hrated).mp hi).2
  · intro hall
    have hissues : keep s f.issues = f.issues := by
      apply List.filter_eq_self.mpr
      intro i hi
      exact (List.mem_filter.mp ((mem_keep h hrated).mpr ⟨hi, hall i hi⟩)).2
    rw [thin, hissues]

theorem keep_keep (s : Settings) (issues : List Issue) :
    keep s (keep s issues) = keep s issues := by
  unfold keep
  simp only [List.filter_filter, Bool.and_self]

theorem keep_flatMap {α : Type} (s : Settings) (as : List α) (f : α → List Issue) :
    keep s (as.flatMap f) = as.flatMap fun a => keep s (f a) :=
  List.filter_flatMap

section

variable (r : Reviewer) (least : Text)

theorem runOne_withMinimum (subject : Subject) (tree : Option Source.Node) (a : Analyzer) :
    (r.withMinimum least).runOne subject tree a
      = ((r.withMinimum "info").runOne subject tree a).map
          (keep (r.settings.withMinimum least)) := by
  unfold runOne
  cases a.run subject tree with
  | ok issues =>
    have hall : keep (r.withMinimum "info").settings issues = issues := keep_info _ _
    simp only [Reviewed.map, hall]
    rfl
  | error f => rfl

/-- The minimum makes no difference but for what it leaves out. -/
theorem reviewSource_withMinimum (source path : Text) :
    (r.withMinimum least).reviewSource source path
      = ((r.withMinimum "info").reviewSource source path).map
          (thin (r.settings.withMinimum least)) := by
  -- Each analyzer is thinned out on its own, and what they leave is put together in the same order.
  have hone : (r.withMinimum least).runOne { path, source } (Source.treeOf source)
      = fun a => ((r.withMinimum "info").runOne { path, source } (Source.treeOf source) a).map
          (keep (r.settings.withMinimum least)) :=
    funext fun a => r.runOne_withMinimum least _ _ a
  simp only [reviewSource, Reviewed.map, thin, hone, List.flatMap_map, keep_flatMap]
  rfl

theorem issues_withMinimum (source path : Text) :
    ((r.withMinimum least).reviewSource source path).result.issues
      = keep (r.settings.withMinimum least)
          ((r.withMinimum "info").reviewSource source path).result.issues := by
  rw [reviewSource_withMinimum]
  rfl

/-- A review reports nothing that its own minimum would leave out. -/
theorem keep_issues (source path : Text) :
    keep r.settings (r.reviewSource source path).result.issues
      = (r.reviewSource source path).result.issues := by
  have hself : r.withMinimum r.settings.minSeverity = r := rfl
  rw [← hself, issues_withMinimum]
  exact keep_keep _ _

theorem looksAt_withMinimum (p : Path) : (r.withMinimum least).looksAt p = r.looksAt p :=
  rfl

theorem reviewFile_withMinimum (disk : Disk) (p : Path) (shown : Text) :
    (r.withMinimum least).reviewFile disk p shown
      = ((r.withMinimum "info").reviewFile disk p shown).map
          (Reviewed.map (thin (r.settings.withMinimum least))) := by
  simp only [reviewFile, looksAt_withMinimum]
  split
  · rfl
  · cases r.looksAt p with
    | error f => rfl
    | ok looked =>
      cases looked with
      | false => rfl
      | true =>
        cases disk.read p with
        | error f => rfl
        | ok bytes =>
          exact congrArg Except.ok (r.reviewSource_withMinimum least _ _)

end

/-- The reviewer with the standard settings. -/
def standard : Reviewer :=
  { settings := .standard, analyzers := builtin .standard }

theorem new_standard : Reviewer.new .standard [] = .ok standard :=
  rfl

theorem standard_withMinimum : standard.withMinimum "info" = standard :=
  rfl

theorem new_withMinimum (s : Settings) (least : Text) (custom : List Plugin) :
    Reviewer.new (s.withMinimum least) custom
      = (Reviewer.new s custom).map (·.withMinimum least) := by
  have hsame : (builtin (s.withMinimum least)).filterM (fun a => s.analyzers.lists a.name)
      = (builtin s).filterM fun a => s.analyzers.lists a.name := rfl
  simp only [Reviewer.new]
  change (((builtin (s.withMinimum least)).filterM fun a => s.analyzers.lists a.name) >>= _) = _
  rw [hsame]
  cases (builtin s).filterM fun a => s.analyzers.lists a.name <;> rfl

end Reviewer

/-! ## Spellings of a minimum -/

namespace Severity

theorem eq_toText_of_ofText? {t : Text} {l : Severity} (h : ofText? t = some l) : t = l.toText := by
  have hfound := List.find?_some h
  exact (of_decide_eq_true hfound).symm

theorem lower_toText (l : Severity) : Text.lower l.toText = l.toText := by
  cases l <;> decide

end Severity

/-- A word that means a level in some case names the level only if it is in lower case. -/
theorem Rating.ofText_of_lower {t : Text} {l : Severity}
    (h : Severity.ofText? (Text.lower t) = some l) :
    Rating.ofText t = if t = Text.lower t then .level l else .other t := by
  by_cases hlower : t = Text.lower t
  · rw [← hlower] at h
    rw [if_pos hlower, ofText, h]
  · rw [if_neg hlower, ofText]
    -- A word that names a level is the name of that level, and all of these are in lower case.
    cases hname : Severity.ofText? t with
    | none => rfl
    | some k =>
      have ht : t = k.toText := Severity.eq_toText_of_ofText? hname
      exact absurd (by rw [ht, Severity.lower_toText]) hlower

namespace Settings

/-- Settings with nothing but a minimum are the standard ones with this minimum, if it is a level in
any case, and otherwise none. -/
theorem ofFields_minSeverity (env : Environment) (t : Text) :
    ofFields env [("min_severity", .text t)]
      = if (Severity.ofText? (Text.lower t)).isNone then .error (.unknownMinimum t)
        else .ok (standard.withMinimum t) := by
  change (if (Severity.ofText? (Text.lower t)).isNone then Except.error (Failure.unknownMinimum t)
    else .ok t) >>= _ = _
  split <;> rfl

theorem eq_of_ofFields_minSeverity {env : Environment} {t : Text} {s : Settings}
    (h : ofFields env [("min_severity", .text t)] = .ok s) :
    s = standard.withMinimum t ∧ ∃ l, Severity.ofText? (Text.lower t) = some l := by
  rw [ofFields_minSeverity] at h
  cases hlevel : Severity.ofText? (Text.lower t) with
  | none =>
    rw [hlevel] at h
    exact absurd h (by simp)
  | some l =>
    rw [hlevel] at h
    exact ⟨(Except.ok.inj h).symm, l, rfl⟩

/-- Whether a level is reported depends on the minimum in any case. -/
theorem reports_withMinimum (s : Settings) {t : Text} {l : Severity}
    (h : Severity.ofText? (Text.lower t) = some l) (k : Severity) :
    (s.withMinimum t).reports k.toText = .ok (k.rank ≤ l.rank) := by
  have hk : rankOf k.toText = .ok k.rank := by
    rw [rankOf, Severity.lower_toText, Severity.ofText?_toText]
  have hl : (s.withMinimum t).minRank = .ok l.rank := by
    change rankOf t = _
    rw [rankOf, h]
  rw [reports, hk, hl]
  rfl

end Settings

namespace Reviewer

section

variable (s : Settings) {t : Text} {l : Severity} (h : Severity.ofText? (Text.lower t) = some l)
include h

theorem filterM_reports {issues : List Issue} (hrated : ∀ i ∈ issues, i.Rated) :
    issues.filterM (fun i => (s.withMinimum t).reports i.severity.toText)
      = .ok (issues.filter fun i => i.severity.rank ≤ l.rank) := by
  apply Steps.filterM_ok
  intro i hi
  obtain ⟨k, hk⟩ := hrated i hi
  rw [hk]
  exact s.reports_withMinimum h k

/-- In lower case a minimum leaves out all that is milder; in any other case it leaves out
nothing. -/
theorem keep_withMinimum (issues : List Issue) :
    keep (s.withMinimum t) issues
      = if t = Text.lower t then issues.filter fun i => i.severity.rank ≤ l.rank else issues := by
  have hleast : keep (s.withMinimum t) issues
      = issues.filter fun i => i.severity.rank ≤ (Rating.ofText t).rank := rfl
  rw [hleast, Rating.ofText_of_lower h]
  split
  · rfl
  · exact List.filter_eq_self.mpr fun i _ => decide_eq_true i.severity.rank_le

end

/-- All that a reviewer with the analyzers of the library finds is rated with a level. -/
theorem rated_of_mem_reviewSource {r : Reviewer} {s : Settings}
    (h : ∀ a ∈ r.analyzers, a ∈ builtin s) (source path : Text) :
    ∀ i ∈ (r.reviewSource source path).result.issues, i.Rated := by
  intro i hi
  rw [result_reviewSource] at hi
  obtain ⟨a, ha, hin⟩ := List.mem_flatMap.mp hi
  rw [within] at hin
  cases hrun : a.run { path, source } (Source.treeOf source) with
  | error f =>
    rw [hrun] at hin
    exact absurd hin List.not_mem_nil
  | ok issues =>
    rw [hrun] at hin
    exact rated_of_mem_builtin (h a ha) hrun i (List.mem_of_mem_filter hin)

/-- What a review with a minimum reports. Settings accept a level in any case. In lower case the
review reports those issues of a review with the mildest minimum that the settings say are to be
reported, in order; otherwise it reports all of them. -/
theorem reviewSource_of_minSeverity (env : Environment) (t source path : Text) {s : Settings}
    (h : Settings.ofFields env [("min_severity", .text t)] = .ok s) :
    ∃ mildest r all reported,
      Settings.ofFields env [("min_severity", .text "info")] = .ok mildest
      ∧ Reviewer.new s [] = .ok r
      ∧ Reviewer.new mildest [] = .ok all
      ∧ (all.reviewSource source path).result.issues.filterM
          (fun i => s.reports i.severity.toText) = .ok reported
      ∧ (r.reviewSource source path).result.issues
        = if t = Text.lower t then reported else (all.reviewSource source path).result.issues := by
  obtain ⟨rfl, l, hl⟩ := Settings.eq_of_ofFields_minSeverity h
  have hrated := rated_of_mem_reviewSource (r := standard) (fun a ha => ha) source path
  refine ⟨.standard, standard.withMinimum t, standard, _, ?_, ?_, new_standard,
    filterM_reports .standard hl hrated, ?_⟩
  · exact Settings.ofFields_minSeverity env "info"
  · rw [new_withMinimum, new_standard]
    rfl
  · rw [issues_withMinimum, standard_withMinimum]
    exact keep_withMinimum .standard hl _

/-- One import that nobody uses, and a mark for work to be done. -/
def untidy : Text :=
  "import os  # TODO"

theorem severities_filter (issues : List Issue) (n : Nat) :
    (issues.filter fun i => i.severity.rank ≤ n).map (·.severity)
      = (issues.map (·.severity)).filter fun s => s.rank ≤ n := by
  rw [List.filter_map]
  rfl

theorem severities_untidy : (standard.reviewSource untidy "a.py").result.issues.map (·.severity)
    = [.level .info, .level .low] := by
  decide +kernel

theorem reviewSource_of_minSeverity_low :
    ∃ s r, Settings.ofFields [] [("min_severity", .text "low")] = .ok s
      ∧ Reviewer.new s [] = .ok r
      ∧ (r.reviewSource untidy "a.py").result.issues.map (·.severity) = [.level .low] := by
  have haccepted : Settings.ofFields [] [("min_severity", .text "low")]
      = .ok (Settings.standard.withMinimum "low") := Settings.ofFields_minSeverity [] "low"
  have hlow : Severity.ofText? (Text.lower "low") = some .low := by decide
  obtain ⟨mildest, r, all, reported, hmildest, hr, hall, hreported, hissues⟩ :=
    reviewSource_of_minSeverity [] "low" untidy "a.py" haccepted
  obtain rfl : Settings.standard = mildest :=
    Except.ok.inj ((Settings.ofFields_minSeverity [] "info").symm.trans hmildest)
  obtain rfl : standard = all := Except.ok.inj (new_standard.symm.trans hall)
  have hrated := rated_of_mem_reviewSource (r := standard) (fun a ha => ha) untidy "a.py"
  obtain rfl := Except.ok.inj ((filterM_reports .standard hlow hrated).symm.trans hreported)
  refine ⟨_, r, haccepted, hr, ?_⟩
  rw [hissues, if_pos (by decide), severities_filter, severities_untidy]
  rfl

/-- A minimum in capitals is accepted and leaves out nothing, not even what the settings say is not
to be reported. -/
theorem reviewSource_of_capitals :
    ∃ s r, Settings.ofFields [] [("min_severity", .text "HIGH")] = .ok s
      ∧ Reviewer.new s [] = .ok r
      ∧ (standard.reviewSource untidy "a.py").result.issues.filterM
          (fun i => s.reports i.severity.toText) = .ok []
      ∧ (r.reviewSource untidy "a.py").result.issues.map (·.severity)
        = [.level .info, .level .low] := by
  have hhigh : Severity.ofText? (Text.lower "HIGH") = some .high := by decide
  have hrated := rated_of_mem_reviewSource (r := standard) (fun a ha => ha) untidy "a.py"
  refine ⟨_, standard.withMinimum "HIGH", Settings.ofFields_minSeverity [] "HIGH", ?_, ?_, ?_⟩
  · rw [new_withMinimum, new_standard]
    rfl
  · rw [filterM_reports .standard hhigh hrated]
    apply congrArg
    apply List.map_eq_nil_iff.mp
    rw [severities_filter, severities_untidy]
    rfl
  · rw [issues_withMinimum, standard_withMinimum, keep_withMinimum _ hhigh, if_neg (by decide),
      severities_untidy]

end Reviewer

end CodeReview
