import CodeReview.Proofs.Analyzers
import CodeReview.Proofs.Entries
import Mathlib.Data.List.Flatten

/-!
# Quick reviews

A quick review takes named values for its settings and leaves out the names that mean nothing. It
also leaves out every setting that is a list, although such a setting is accepted elsewhere. One of
them matters to the review of a source: the names of the analyzers. So a quick review is the review
with the same settings by all analyzers of the library, and it finds more than it should just if an
analyzer that was not named finds something.
-/

namespace CodeReview

variable {fields : List (Text × Value)} {env : Environment}

namespace Settings

/-! ## Settings without their lists -/

/-- The same settings with the standard lists. -/
def withStandardLists (s : Settings) : Settings :=
  { s with
    languages := standard.languages
    analyzers := standard.analyzers
    ignorePaths := standard.ignorePaths
    ignoreFiles := standard.ignoreFiles
    includePatterns := standard.includePatterns }

/-- The named values that are no lists. -/
def unlisted (fields : List (Text × Value)) : List (Text × Value) :=
  fields.filter fun f => !listNames.contains f.1

theorem checkNames_eq_ok_iff :
    checkNames fields = .ok () ↔ ∀ f ∈ fields, f.1 ∈ names := by
  have hnone : (fields.find? fun f => !names.contains f.1) = none ↔ ∀ f ∈ fields, f.1 ∈ names := by
    simp
  rw [← hnone, checkNames]
  cases fields.find? fun f => !names.contains f.1 <;> simp

/-- What settings are made of that are accepted. -/
theorem ofWords_of_ofFields {s : Settings} (h : ofFields env fields = .ok s) :
    (∀ f ∈ fields, f.1 ∈ names)
      ∧ ∃ least form,
        givenWord fields "min_severity" standard.minSeverity
          (fun t => (Severity.ofText? t).isNone) .unknownMinimum = .ok least
        ∧ givenWord fields "output_format" standard.outputFormat
          (fun t => !formats.contains t) .unknownFormat = .ok form
        ∧ s = ofWords fields env least form := by
  obtain ⟨_, hnames, h⟩ := Steps.bind_ok h
  obtain ⟨least, hleast, h⟩ := Steps.bind_ok h
  obtain ⟨form, hform, h⟩ := Steps.bind_ok h
  exact ⟨checkNames_eq_ok_iff.mp hnames, least, form, hleast, hform, (Except.ok.inj h).symm⟩

section

variable (fields : List (Text × Value))

theorem get?_unlisted {name : Text} (h : listNames.contains name = false) :
    Entries.get? (unlisted fields) name = Entries.get? fields name := by
  rw [unlisted, Entries.get?_filter fields fun n => !listNames.contains n, h]
  rfl

theorem get?_unlisted_of_list {name : Text} (h : listNames.contains name = true) :
    Entries.get? (unlisted fields) name = none := by
  rw [unlisted, Entries.get?_filter fields fun n => !listNames.contains n, h]
  rfl

theorem given_unlisted {α : Type} {name : String} (h : listNames.contains name.toList = false)
    (read : Value → Option α) (default : Setting α) :
    given (unlisted fields) name read default = given fields name read default := by
  rw [given, get?_unlisted fields h, given]

theorem given_unlisted_of_list {α : Type} {name : String}
    (h : listNames.contains name.toList = true) (read : Value → Option α) (default : Setting α) :
    given (unlisted fields) name read default = default := by
  rw [given, get?_unlisted_of_list fields h]

theorem givenWord_unlisted {name : String} (h : listNames.contains name.toList = false)
    (default : Text) (refused : Text → Bool) (refusal : Text → Failure) :
    givenWord (unlisted fields) name default refused refusal
      = givenWord fields name default refused refusal := by
  rw [givenWord, get?_unlisted fields h, givenWord]

theorem ofWords_unlisted (env : Environment) (least form : Text) :
    ofWords (unlisted fields) env least form
      = (ofWords fields env least form).withStandardLists := by
  simp (disch := decide +kernel) only [ofWords, given_unlisted, given_unlisted_of_list,
    withStandardLists]

end

/-- Of names that are all names of settings, a quick review leaves out the lists. -/
theorem filter_quick (h : ∀ f ∈ fields, f.1 ∈ names) :
    (fields.filter fun f => (names.contains f.1 && !listNames.contains f.1)
      || reservedNames.contains f.1) = unlisted fields := by
  -- A word that is refused for another reason is no name of a setting.
  have hreserved : ∀ n ∈ names, reservedNames.contains n = false := by decide +kernel
  apply List.filter_congr
  intro f hf
  rw [hreserved f.1 (h f hf), Bool.or_false, List.contains_iff_mem.mpr (h f hf), Bool.true_and]

/-- A quick review accepts all settings that are accepted elsewhere, and reads them without their
lists. -/
theorem quick_of_ofFields {s : Settings}
    (h : ofFields env fields = .ok s) : quick env fields = .ok s.withStandardLists := by
  obtain ⟨hnames, least, form, hleast, hform, rfl⟩ := ofWords_of_ofFields h
  have hunlisted : checkNames (unlisted fields) = .ok () :=
    checkNames_eq_ok_iff.mpr fun f hf => hnames f (List.mem_of_mem_filter hf)
  rw [quick, filter_quick hnames, ofFields, hunlisted,
    givenWord_unlisted fields (by decide +kernel), hleast,
    givenWord_unlisted fields (by decide +kernel), hform, ← ofWords_unlisted]
  rfl

theorem analyzers_of_ofFields {s : Settings}
    (h : ofFields env fields = .ok s) (habsent : Entries.get? fields "analyzers" = none) :
    s.analyzers = standard.analyzers := by
  obtain ⟨_, least, form, _, _, rfl⟩ := ofWords_of_ofFields h
  change given fields "analyzers" Value.texts? standard.analyzers = _
  rw [given, habsent]

end Settings

namespace Reviewer

/-! ## The analyzers of a quick review -/

theorem new_withStandardLists (s : Settings) :
    Reviewer.new s.withStandardLists []
      = .ok { settings := s.withStandardLists, analyzers := builtin s } :=
  rfl

/-- A quick review is the review with the same settings by all analyzers of the library. -/
theorem reviewQuickly_of_ofFields {s : Settings}
    (h : Settings.ofFields env fields = .ok s) (source : Text) :
    reviewQuickly env fields source
      = .ok (reviewSource { settings := s, analyzers := builtin s } source "<string>") := by
  have hquick : quick env fields
      = .ok { settings := s.withStandardLists, analyzers := builtin s } := by
    rw [quick, Settings.quick_of_ofFields h]
    exact new_withStandardLists s
  rw [reviewQuickly, hquick]
  -- No list of the settings is looked at once the analyzers are chosen.
  rfl

/-- Leaving out some of the parts makes no difference just if these are empty. -/
theorem flatMap_filter_eq_iff {α β : Type} (as : List α) (p : α → Bool) (f : α → List β) :
    (as.filter p).flatMap f = as.flatMap f ↔ ∀ a ∈ as, p a = false → f a = [] := by
  induction as with
  | nil => simp
  | cons a as ih =>
    rw [List.forall_mem_cons, ← ih, List.flatMap_cons]
    cases hp : p a with
    | true =>
      rw [List.filter_cons_of_pos hp, List.flatMap_cons, List.append_cancel_left_eq]
      simp
    | false =>
      rw [List.filter_cons_of_neg (by simp [hp])]
      constructor
      · intro heq
        -- What is left can be no longer than all there is, so nothing was added in front of it.
        have hle : ((as.filter p).flatMap f).length ≤ (as.flatMap f).length :=
          (List.filter_sublist.flatMap f).length_le
        have hlength := congrArg List.length heq
        rw [List.length_append] at hlength
        have hnil : f a = [] := List.eq_nil_of_length_eq_zero (by omega)
        rw [hnil, List.nil_append] at heq
        exact ⟨fun _ => hnil, heq⟩
      · rintro ⟨hnil, heq⟩
        rw [heq, hnil rfl, List.nil_append]

theorem chosen_nil (s : Settings) :
    chosen s [] = (builtin s).filter fun a => s.analyzers.names a.name := by
  rw [chosen, List.filterMap_nil, List.append_nil]

/-- What a quick review finds with settings that are accepted. It finds what all analyzers of the
library find on their own. Where no analyzers are named, it is the review with these settings.
Otherwise that review fails if the names cannot be searched; if they can, the two have the same
result just if every analyzer that is not named finds nothing. -/
theorem reviewQuickly_eq_iff {env : Environment} {fields : List (Text × Value)} {s : Settings}
    (h : Settings.ofFields env fields = .ok s) (source : Text) :
    let subject : Subject := { path := "<string>", source }
    ∃ found, reviewQuickly env fields source = .ok found
      ∧ found.result =
        { file := "<string>"
          issues := (builtin s).flatMap (alone s subject)
          metrics := some (Analysis.measure false source (Source.treeOf source)) }
      ∧ (Entries.get? fields "analyzers" = none →
        ∃ r, Reviewer.new s [] = .ok r ∧ found = r.reviewSource source "<string>")
      ∧ ((∃ v, s.analyzers = .other v ∧ Reviewer.new s [] = .error (.notSearchable v.kind))
        ∨ ∃ r, Reviewer.new s [] = .ok r
          ∧ (found.result = (r.reviewSource source "<string>").result
            ↔ ∀ a ∈ builtin s, s.analyzers.names a.name = false → alone s subject a = [])) := by
  intro subject
  have halone : ∀ a ∈ builtin s, within s subject a = alone s subject a := fun a ha =>
    within_eq_alone (selfReading_of_mem_builtin ha subject) s
  refine ⟨_, reviewQuickly_of_ofFields h source, ?_, ?_, ?_⟩
  · rw [result_reviewSource, List.flatMap_congr halone]
  · intro habsent
    refine ⟨{ settings := s, analyzers := builtin s }, ?_, rfl⟩
    rw [Reviewer.new, Settings.analyzers_of_ofFields h habsent]
    rfl
  · rcases new_eq s with hnew | ⟨v, hv, hfail⟩
    · right
      refine ⟨_, hnew [], ?_⟩
      have hiff := flatMap_filter_eq_iff (builtin s) (fun a => s.analyzers.names a.name)
        (within s subject)
      rw [result_reviewSource, result_reviewSource, chosen_nil, FileResult.mk.injEq]
      constructor
      · rintro ⟨_, hissues, _⟩ a ha hunnamed
        rw [← halone a ha]
        exact hiff.mp hissues.symm a ha hunnamed
      · intro hnothing
        refine ⟨rfl, (hiff.mpr fun a ha hunnamed => ?_).symm, rfl, rfl, rfl⟩
        rw [halone a ha]
        exact hnothing a ha hunnamed
    · exact .inl ⟨v, hv, hfail []⟩

/-- Settings with a minimum that name one analyzer. -/
def oneNamed (least : Text) : Settings :=
  { Settings.standard with analyzers := .proper ["security"], minSeverity := least }

theorem unnamed_find_nothing :
    ((builtin (oneNamed "high")).all fun a => (oneNamed "high").analyzers.names a.name
      || (alone (oneNamed "high") { path := "<string>", source := "# TODO" } a).isEmpty)
      = true := by
  decide +kernel

/-- What the analyzers that are not named find is not bad enough, so it is not missed. -/
theorem reviewQuickly_eq_iff_high :
    let fields : List (Text × Value) :=
      [("analyzers", .texts ["security"]), ("min_severity", .text "high")]
    ∃ s r found, Settings.ofFields [] fields = .ok s
      ∧ Reviewer.new s [] = .ok r
      ∧ reviewQuickly [] fields "# TODO" = .ok found
      ∧ found.result = (r.reviewSource "# TODO" "<string>").result := by
  intro fields
  have haccepted : Settings.ofFields [] fields = .ok (oneNamed "high") := rfl
  obtain ⟨found, hfound, _, _, ⟨v, hv, _⟩ | ⟨r, hr, hiff⟩⟩ :=
    reviewQuickly_eq_iff haccepted "# TODO"
  · exact nomatch hv
  · refine ⟨_, r, found, haccepted, hr, hfound, hiff.mpr fun a ha hunnamed => ?_⟩
    have hnothing := List.all_eq_true.mp unnamed_find_nothing a ha
    rw [hunnamed, Bool.false_or] at hnothing
    exact List.isEmpty_iff.mp hnothing

theorem issues_oneNamed :
    (reviewSource { settings := oneNamed "info", analyzers := [Analysis.security] }
      "# TODO" "<string>").result.issues.length = 0 := by
  decide +kernel

theorem issues_allNamed :
    (reviewSource { settings := oneNamed "info", analyzers := builtin (oneNamed "info") }
      "# TODO" "<string>").result.issues.length = 1 := by
  decide +kernel

/-- A quick review by one analyzer finds what another analyzer finds. -/
theorem reviewQuickly_differs :
    let fields : List (Text × Value) := [("analyzers", .texts ["security"])]
    ∃ s r found, Settings.ofFields [] fields = .ok s
      ∧ Reviewer.new s [] = .ok r
      ∧ reviewQuickly [] fields "# TODO" = .ok found
      ∧ (r.reviewSource "# TODO" "<string>").result.issues = []
      ∧ found.result.issues.length = 1 := by
  intro fields
  have haccepted : Settings.ofFields [] fields = .ok (oneNamed "info") := rfl
  exact ⟨_, { settings := oneNamed "info", analyzers := [Analysis.security] }, _, haccepted, rfl,
    reviewQuickly_of_ofFields haccepted "# TODO", List.eq_nil_of_length_eq_zero issues_oneNamed,
    issues_allNamed⟩

end Reviewer

end CodeReview
