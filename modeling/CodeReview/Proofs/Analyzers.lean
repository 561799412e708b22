import CodeReview.Proofs.Steps
import CodeReview.Review

/-!
# What the analyzers add to a review

A review reads a source once and hands the tree to all analyzers, which leave it as it is. For the
analyzers of the library this is no more than a saving: what the review finds is what each of them
finds on its own, one after the other. An analyzer that only looks at a tree that it is handed finds
more in a review than on its own. One that fails is as good as one that is not there.
-/

namespace CodeReview

/-! ## Trees that are handed over -/

/-- Finds in a source the same with its tree as on its own. -/
def Analyzer.SelfReading (a : Analyzer) (subject : Subject) : Prop :=
  a.run subject (Source.treeOf subject.source) = a.run subject none

/-- A faulty source has no tree to hand over; it is read once more and is as faulty as before. -/
theorem Subject.tree?_treeOf (s : Subject) : s.tree? (Source.treeOf s.source) = s.tree? none := by
  unfold tree?
  -- A tree that is there is the one that would be read.
  cases Source.treeOf s.source <;> rfl

/-- It makes no difference who reads the tree that is looked at. -/
theorem Analyzer.selfReading_onTree (name description : Text)
    (look : Subject → Source.Node → Except Failure (List Issue)) (subject : Subject) :
    (onTree name description look).SelfReading subject := by
  simp only [SelfReading, onTree]
  rw [Subject.tree?_treeOf]

theorem Reviewer.selfReading_of_mem_builtin {s : Settings} {a : Analyzer} (h : a ∈ builtin s)
    (subject : Subject) : a.SelfReading subject := by
  simp only [builtin, List.mem_cons, List.not_mem_nil, or_false] at h
  rcases h with rfl | rfl | rfl <;> exact Analyzer.selfReading_onTree _ _ _ subject

/-! ## The analyzers of a review -/

/-- Whether a setting can be searched and has a name in it. -/
def Setting.names (s : Setting (List Text)) (name : Text) : Bool :=
  (s.lists name).toOption.getD false

theorem Setting.names_proper (ns : List Text) (name : Text) :
    (proper ns).names name = true ↔ name ∈ ns := by
  simp [names, lists, Except.toOption]

/-- A setting can be searched for every name or for none. -/
theorem Setting.lists_eq (s : Setting (List Text)) :
    (∀ name, s.lists name = .ok (s.names name))
      ∨ ∃ v, s = .other v ∧ ∀ name, s.lists name = .error (.notSearchable v.kind) := by
  unfold names
  match s with
  | proper ts => exact .inl fun _ => rfl
  | other (.list vs) => exact .inl fun _ => rfl
  | other (.text t) => exact .inl fun _ => rfl
  | other (.object fields) => exact .inl fun _ => rfl
  -- What is no list, no text and no object cannot be searched, whatever the name is.
  | other .null => exact .inr ⟨_, rfl, fun _ => rfl⟩
  | other (.bool b) => exact .inr ⟨_, rfl, fun _ => rfl⟩
  | other (.number n) => exact .inr ⟨_, rfl, fun _ => rfl⟩

namespace Reviewer

/-- The analyzers that the settings name, in the order of the library, and then all others. -/
def chosen (s : Settings) (custom : List Plugin) : List Analyzer :=
  (builtin s).filter (fun a => s.analyzers.names a.name) ++ custom.filterMap Plugin.analyzer?

theorem new_of_lists_error {s : Settings} {f : Failure}
    (h : ∀ name, s.analyzers.lists name = .error f) (custom : List Plugin) :
    Reviewer.new s custom = .error f := by
  have hfail : (builtin s).filterM (fun a => s.analyzers.lists a.name) = .error f := by
    apply Steps.filterM_error
    exact h _
  rw [Reviewer.new, hfail]
  rfl

/-- There is a reviewer unless the setting for the analyzers cannot be searched. -/
theorem new_eq (s : Settings) :
    (∀ custom, Reviewer.new s custom = .ok { settings := s, analyzers := chosen s custom })
      ∨ ∃ v, s.analyzers = .other v
        ∧ ∀ custom, Reviewer.new s custom = .error (.notSearchable v.kind) := by
  rcases s.analyzers.lists_eq with hnames | ⟨v, hv, hnone⟩
  · left
    intro custom
    rw [Reviewer.new, Steps.filterM_ok fun a _ => hnames a.name]
    rfl
  · exact .inr ⟨v, hv, new_of_lists_error hnone⟩

/-! ## What they add -/

/-- What an outcome of an analyzer adds. -/
def kept (s : Settings) : Except Failure (List Issue) → List Issue
  | .ok issues => keep s issues
  | .error _ => []

/-- What an analyzer adds to a review, which hands over the tree. -/
def within (s : Settings) (subject : Subject) (a : Analyzer) : List Issue :=
  kept s (a.run subject (Source.treeOf subject.source))

/-- What an analyzer adds that is run on its own. -/
def alone (s : Settings) (subject : Subject) (a : Analyzer) : List Issue :=
  kept s (a.run subject none)

theorem within_eq_alone {subject : Subject} {a : Analyzer} (h : a.SelfReading subject)
    (s : Settings) : within s subject a = alone s subject a := by
  rw [within, h, alone]

theorem result_runOne (r : Reviewer) (subject : Subject) (tree : Option Source.Node)
    (a : Analyzer) : (r.runOne subject tree a).result = kept r.settings (a.run subject tree) := by
  unfold runOne
  cases a.run subject tree <;> rfl

theorem result_reviewSource (r : Reviewer) (source path : Text) :
    (r.reviewSource source path).result =
      { file := path
        issues := r.analyzers.flatMap (within r.settings { path, source })
        metrics := some (Analysis.measure false source (Source.treeOf source)) } := by
  have hwithin : ∀ a ∈ r.analyzers, (r.runOne { path, source } (Source.treeOf source) a).result
      = within r.settings { path, source } a := fun a _ => result_runOne r _ _ a
  rw [reviewSource, List.flatMap_map, List.flatMap_congr hwithin]

/-- What is not chosen adds nothing. -/
theorem flatMap_chosen (s : Settings) (custom : List Plugin) (add : Analyzer → List Issue) :
    (chosen s custom).flatMap add
      = (builtin s).flatMap (fun a => if s.analyzers.names a.name then add a else [])
        ++ (custom.filterMap Plugin.analyzer?).flatMap add := by
  rw [chosen, List.flatMap_append]
  congr 1
  induction builtin s with
  | nil => rfl
  | cons a as ih =>
    rw [List.filter_cons, List.flatMap_cons, ← ih]
    split <;> rfl

/-- The analyzers of the library add what they add on their own. -/
theorem flatMap_builtin (s : Settings) (subject : Subject) :
    (builtin s).flatMap (fun a => if s.analyzers.names a.name then within s subject a else [])
      = (builtin s).flatMap
        fun a => if s.analyzers.names a.name then alone s subject a else [] := by
  apply List.flatMap_congr
  intro a ha
  rw [within_eq_alone (selfReading_of_mem_builtin ha subject)]

/-- An analyzer that fails is as good as one that is not there. -/
theorem flatMap_chosen_of_error {s : Settings} {subject : Subject} {a : Analyzer} {f : Failure}
    (h : a.run subject (Source.treeOf subject.source) = .error f) (before after : List Plugin) :
    (chosen s (before ++ .analyzer a :: after)).flatMap (within s subject)
      = (chosen s (before ++ after)).flatMap (within s subject) := by
  have hnothing : within s subject a = [] := by rw [within, h, kept]
  simp only [chosen, List.filterMap_append, List.filterMap_cons, Plugin.analyzer?,
    List.flatMap_append, List.flatMap_cons, hnothing, List.nil_append]

/-- Where the setting for the analyzers can be searched, a review finds what the analyzers find:
those of the library that the settings name, on their own and in the order of the library, and then
all others as they were given, with the tree of the source. The tree makes no difference to one that
reads the source itself. An analyzer that fails adds nothing and takes nothing away. -/
theorem reviewSource_eq_alone (s : Settings) (custom : List Plugin) (source path : Text) :
    let subject : Subject := { path, source }
    let part (a : Analyzer) := if s.analyzers.names a.name then alone s subject a else []
    let library := part (Analysis.complexity s) ++ part Analysis.security ++ part Analysis.smells
    let others := custom.filterMap Plugin.analyzer?
    (∀ ns, s.analyzers = .proper ns → ∀ n, s.analyzers.names n = true ↔ n ∈ ns)
    ∧ ((∃ v, s.analyzers = .other v ∧ Reviewer.new s custom = .error (.notSearchable v.kind))
      ∨ ∃ r, Reviewer.new s custom = .ok r
        ∧ (r.reviewSource source path).result =
          { file := path
            issues := library ++ others.flatMap (within s subject)
            metrics := some (Analysis.measure false source (Source.treeOf source)) }
        ∧ ((∀ a ∈ others, a.SelfReading subject) →
          (r.reviewSource source path).result.issues
            = library ++ others.flatMap (alone s subject))
        ∧ ∀ before a after f, custom = before ++ .analyzer a :: after →
          a.run subject (Source.treeOf source) = .error f →
          ∃ r', Reviewer.new s (before ++ after) = .ok r'
            ∧ (r'.reviewSource source path).result = (r.reviewSource source path).result) := by
  intro subject part library others
  refine ⟨fun ns hns n => hns ▸ Setting.names_proper ns n, ?_⟩
  rcases new_eq s with hnew | ⟨v, hv, hnone⟩
  · right
    -- The library's part is split up by name; the rest stands as it was given.
    have hissues : (chosen s custom).flatMap (within s subject)
        = library ++ others.flatMap (within s subject) := by
      rw [flatMap_chosen, flatMap_builtin]
      simp only [library, builtin, List.flatMap_cons, List.flatMap_nil, List.append_nil,
        List.append_assoc]
      rfl
    refine ⟨_, hnew custom, ?_, ?_, ?_⟩
    · rw [result_reviewSource, hissues]
    · intro hothers
      have halone : others.flatMap (within s subject) = others.flatMap (alone s subject) :=
        List.flatMap_congr fun a ha => within_eq_alone (hothers a ha) s
      rw [result_reviewSource, hissues, halone]
    · rintro before a after f rfl hfail
      refine ⟨_, hnew (before ++ after), ?_⟩
      rw [result_reviewSource, result_reviewSource, flatMap_chosen_of_error hfail]
  · exact .inl ⟨v, hv, hnone custom⟩

/-- An analyzer with the same outcome for every source. -/
def constant (name : Text) (outcome : Except Failure (List Issue)) : Analyzer where
  name := name
  description := []
  run _ _ := outcome

/-- One analyzer of the library, named twice and beside a name that nobody has; then a value that is
no analyzer, an analyzer that fails and one that does not. -/
theorem reviewSource_eq_alone_mixed :
    let s : Settings := { Settings.standard with analyzers := .proper ["smells", "lint", "smells"] }
    let note : Issue :=
      { type := "note", severity := .level .low, file := "a.py", line := 1, message := [] }
    let custom : List Plugin :=
      [.other .null, .analyzer (constant "broken" (.error .commentsLost)),
        .analyzer (constant "notes" (.ok [note]))]
    (∀ a ∈ custom.filterMap Plugin.analyzer?, a.SelfReading { path := "a.py", source := "x = 1" })
      ∧ ∃ r, Reviewer.new s custom = .ok r
        ∧ (r.reviewSource "x = 1" "a.py").result.issues
          = alone s { path := "a.py", source := "x = 1" } Analysis.smells ++ [note] := by
  intro s note custom
  have hcustom : ∀ a ∈ custom.filterMap Plugin.analyzer?,
      a.SelfReading { path := "a.py", source := "x = 1" } := by
    intro a ha
    simp only [custom, List.filterMap_cons, List.filterMap_nil, Plugin.analyzer?, List.mem_cons,
      List.not_mem_nil, or_false] at ha
    rcases ha with rfl | rfl <;> rfl
  obtain ⟨_, ⟨v, hv, _⟩ | ⟨r, hr, _, hissues, _⟩⟩ :=
    reviewSource_eq_alone s custom "x = 1" "a.py"
  · exact absurd hv (by simp [s])
  · refine ⟨hcustom, r, hr, ?_⟩
    have hcomplexity : s.analyzers.names (Analysis.complexity s).name = false := by decide
    have hsecurity : s.analyzers.names Analysis.security.name = false := by decide
    have hsmells : s.analyzers.names Analysis.smells.name = true := by decide
    have hothers : (custom.filterMap Plugin.analyzer?).flatMap
        (alone s { path := "a.py", source := "x = 1" }) = [note] := rfl
    rw [hissues hcustom, hothers]
    simp only [hcomplexity, hsecurity, hsmells, Bool.false_eq_true, if_false, if_true,
      List.nil_append]

/-- An analyzer that finds something in every tree, and nothing without one. -/
def treeBound (found : Issue) : Analyzer where
  name := "bound"
  description := []
  run _ tree := .ok (if tree.isSome then [found] else [])

/-- An analyzer that only looks at a tree adds to a review what it does not find on its own. And a
null in the place of the analyzers leaves no reviewer at all. -/
theorem reviewSource_ne_alone :
    (∃ s r note, Reviewer.new s [.analyzer (treeBound note)] = .ok r
        ∧ (r.reviewSource "x = 1" "a.py").result.issues = [note]
        ∧ alone s { path := "a.py", source := "x = 1" } (treeBound note) = [])
      ∧ ∃ s, Settings.ofFields [] [("analyzers", .null)] = .ok s
        ∧ ∀ custom, Reviewer.new s custom = .error (.notSearchable "NoneType") := by
  constructor
  · let note : Issue :=
      { type := "note", severity := .level .low, file := "a.py", line := 1, message := [] }
    obtain ⟨s, hs⟩ : ∃ s : Settings, s.analyzers = .proper [] ∧ keep s [note] = [note] :=
      ⟨{ Settings.standard with analyzers := .proper [] }, rfl, rfl⟩
    have hchosen : chosen s [.analyzer (treeBound note)] = [treeBound note] := by
      have hnone : ∀ n, s.analyzers.names n = false := by
        rw [hs.1]
        exact fun n => rfl
      simp [chosen, hnone, Plugin.analyzer?]
    have htree : (Source.treeOf "x = 1").isSome = true := by decide +kernel
    rcases new_eq s with hnew | ⟨v, hv, -⟩
    · refine ⟨s, _, note, hnew _, ?_, rfl⟩
      rw [hchosen, result_reviewSource]
      dsimp only
      rw [List.flatMap_singleton, within, treeBound]
      dsimp only
      rw [htree]
      exact hs.2
    · rw [hs.1] at hv
      cases hv
  · obtain ⟨s, hfields, hs⟩ : ∃ s, Settings.ofFields [] [("analyzers", .null)] = .ok s
        ∧ s.analyzers = .other .null :=
      ⟨{ Settings.standard with analyzers := .other .null }, rfl, rfl⟩
    refine ⟨s, hfields, new_of_lists_error fun name => ?_⟩
    rw [hs]
    rfl

end Reviewer

end CodeReview
