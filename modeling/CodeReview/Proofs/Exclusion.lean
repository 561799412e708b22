import CodeReview.Proofs.Paths
import CodeReview.Proofs.Traversal

/-!
# Which sources are left out

Settings say which paths are to be left out, and a reviewer decides for itself which sources it
looks at. Both read the lists of ignored paths and ignored files, but not in the same way:

* settings look at the patterns for what is included first, and a reviewer never does;
* settings take an ignored path for a part of a text and for a pattern, and a reviewer only for a
  part of a text.

So the two agree on a source just if no pattern includes what a reviewer leaves out, and no ignored
path fits as a pattern what is neither included nor left out by a reviewer.
-/

namespace CodeReview

/-! ## Lists of patterns -/

namespace Setting

/-- Some member of a list of patterns passes a test. -/
def HasOne (l : Setting (List Text)) (test : Value → Except Failure Bool) : Prop :=
  ∃ vs, l.members = .ok vs ∧ ∃ v ∈ vs, test v = .ok true

/-- A list of texts, none of which is empty as a path. -/
def IsPatterns (l : Setting (List Text)) : Prop :=
  ∃ ts, l = .proper ts ∧ ∀ t ∈ ts, (Path.ofText t).parts.isEmpty = false

theorem hasOne_iff {l : Setting (List Text)} {vs : List Value} (h : l.members = .ok vs)
    (test : Value → Except Failure Bool) : l.HasOne test ↔ ∃ v ∈ vs, test v = .ok true := by
  constructor
  · rintro ⟨vs', h', hone⟩
    obtain rfl := Except.ok.inj (h.symm.trans h')
    exact hone
  · exact fun hone => ⟨vs, h, hone⟩

theorem hasOne_proper {ts : List Text} {test : Value → Except Failure Bool} :
    (proper ts).HasOne test ↔ ∃ t ∈ ts, test (.text t) = .ok true := by
  rw [hasOne_iff rfl]
  simp only [List.mem_map]
  constructor
  · rintro ⟨_, ⟨t, ht, rfl⟩, hone⟩
    exact ⟨t, ht, hone⟩
  · rintro ⟨t, ht, hone⟩
    exact ⟨_, ⟨t, ht, rfl⟩, hone⟩

end Setting

namespace Settings

/-- An answer of a search is right, whether or not the tests after the deciding one would fail. -/
theorem anyOf_ok {α : Type} {test : α → Except Failure Bool} {as : List α} {b : Bool}
    (h : anyOf test as = .ok b) : b = true ↔ ∃ a ∈ as, test a = .ok true := by
  induction as with
  | nil =>
    obtain rfl := Except.ok.inj h
    simp
  | cons a as ih =>
    rw [anyOf] at h
    obtain ⟨found, hfound, h⟩ := Steps.bind_ok h
    cases found with
    | true =>
      obtain rfl : true = b := Except.ok.inj h
      exact iff_of_true rfl ⟨a, List.mem_cons_self, hfound⟩
    | false =>
      rw [ih h]
      simp [hfound]

theorem hasOne_of_anyOf {l : Setting (List Text)} {vs : List Value} (hvs : l.members = .ok vs)
    {test : Value → Except Failure Bool} {b : Bool} (h : anyOf test vs = .ok b) :
    b = true ↔ l.HasOne test := by
  rw [anyOf_ok h, Setting.hasOne_iff hvs]

/-! ## What patterns say of a path -/

variable (s : Settings) (p : Path)

/-- A pattern says that the path is looked at in any case. -/
def Includes : Prop :=
  s.includePatterns.HasOne (pathFits p)

/-- An ignored path is part of the text of the path. -/
def Mentions : Prop :=
  s.ignorePaths.HasOne fun v => partOf v p.toText

/-- An ignored path fits the path as a pattern. -/
def Covers : Prop :=
  s.ignorePaths.HasOne (pathFits p)

/-- An ignored file fits the path as a pattern. -/
def Drops : Prop :=
  s.ignoreFiles.HasOne (pathFits p)

/-- How settings test a path for an ignored one. -/
def partOrFits (v : Value) : Except Failure Bool := do
  if ← partOf v p.toText then return true else pathFits p v

/-- Only a text fits a path. -/
theorem eq_text_of_pathFits {p : Path} {v : Value} {b : Bool} (h : pathFits p v = .ok b) :
    ∃ t, v = .text t := by
  unfold pathFits at h
  split at h
  · exact ⟨_, rfl⟩
  · split at h <;> exact nomatch h

theorem partOrFits_eq_true {p : Path} {v : Value} :
    partOrFits p v = .ok true ↔ partOf v p.toText = .ok true ∨ pathFits p v = .ok true := by
  constructor
  · intro h
    obtain ⟨part, hpart, h⟩ := Steps.bind_ok h
    cases part with
    | true => exact .inl hpart
    | false => exact .inr h
  · rintro (h | h)
    · rw [partOrFits, h]
      rfl
    · -- What fits is a text, so asking whether it is a part does not fail before.
      obtain ⟨t, rfl⟩ := eq_text_of_pathFits h
      have hpart : partOf (.text t) p.toText = .ok (Text.contains p.toText t) := rfl
      rw [partOrFits, hpart]
      cases Text.contains p.toText t with
      | true => rfl
      | false => exact h

theorem exists_partOrFits_iff {s : Settings} {p : Path} {vs : List Value}
    (h : s.ignorePaths.members = .ok vs) :
    (∃ v ∈ vs, partOrFits p v = .ok true) ↔ s.Mentions p ∨ s.Covers p := by
  rw [Mentions, Covers, Setting.hasOne_iff h, Setting.hasOne_iff h]
  simp only [partOrFits_eq_true, and_or_left, exists_or]

/-- What settings answer, wherever they have an answer. -/
theorem ignoresPath_ok {s : Settings} {p : Path} (hp : p.Tidy) {ignored : Bool}
    (h : s.ignoresPath p.toText = .ok ignored) :
    ignored = true ↔ ¬ s.Includes p ∧ (s.Mentions p ∨ s.Covers p ∨ s.Drops p) := by
  unfold ignoresPath at h
  rw [Path.ofText_toText hp] at h
  obtain ⟨inclusions, hinclusions, h⟩ := Steps.bind_ok h
  obtain ⟨kept, hkept, h⟩ := Steps.bind_ok h
  have hincludes : kept = true ↔ s.Includes p := hasOne_of_anyOf hinclusions hkept
  rw [← hincludes]
  cases kept with
  | true =>
    obtain rfl := Except.ok.inj h
    simp
  | false =>
    obtain ⟨paths, hpaths, h⟩ := Steps.bind_ok h
    obtain ⟨found, hfound, h⟩ := Steps.bind_ok h
    have hsearch : anyOf (partOrFits p) paths = .ok found := hfound
    have heither : found = true ↔ s.Mentions p ∨ s.Covers p :=
      (anyOf_ok hsearch).trans (exists_partOrFits_iff hpaths)
    rw [← or_assoc, ← heither]
    cases found with
    | true =>
      obtain rfl := Except.ok.inj h
      simp
    | false =>
      obtain ⟨files, hfiles, h⟩ := Steps.bind_ok h
      have hdrops : ignored = true ↔ s.Drops p := hasOne_of_anyOf hfiles h
      rw [hdrops]
      simp

end Settings

/-- The path of a source, by its ending. -/
def Path.IsSource (p : Path) : Prop :=
  Text.lower p.suffix = ".py" ∨ Text.lower p.suffix = ".pyi"

instance (p : Path) : Decidable p.IsSource :=
  inferInstanceAs (Decidable (_ ∨ _))

namespace Reviewer

theorem looksAt_of_isSource (r : Reviewer) {p : Path} (h : p.IsSource) :
    r.looksAt p = (do
      if ← Settings.anyOf (fun v => Settings.partOf v p.toText)
          (← r.settings.ignorePaths.members) then
        return false
      return !(← Settings.anyOf (Settings.pathFits p) (← r.settings.ignoreFiles.members))) := by
  have hending : ¬ (Text.lower p.suffix ≠ ".py" && Text.lower p.suffix ≠ ".pyi") = true := by
    rcases h with h | h <;> simp [h]
  unfold looksAt
  dsimp only
  rw [if_neg hending]

/-- What a reviewer decides, wherever it decides. -/
theorem looksAt_ok {r : Reviewer} {p : Path} (hsource : p.IsSource) {looked : Bool}
    (h : r.looksAt p = .ok looked) :
    looked = true ↔ ¬ r.settings.Mentions p ∧ ¬ r.settings.Drops p := by
  rw [looksAt_of_isSource r hsource] at h
  obtain ⟨paths, hpaths, h⟩ := Steps.bind_ok h
  obtain ⟨named, hnamed, h⟩ := Steps.bind_ok h
  have hmentions : named = true ↔ r.settings.Mentions p := Settings.hasOne_of_anyOf hpaths hnamed
  cases named with
  | true =>
    obtain rfl := Except.ok.inj h
    simp [hmentions.mp rfl]
  | false =>
    obtain ⟨files, hfiles, h⟩ := Steps.bind_ok h
    obtain ⟨fitted, hfitted, h⟩ := Steps.bind_ok h
    obtain rfl := Except.ok.inj h
    have hdrops : fitted = true ↔ r.settings.Drops p := Settings.hasOne_of_anyOf hfiles hfitted
    rw [← hmentions, ← hdrops]
    simp

/-- What a reviewer looks at, where it decides on every path. -/
theorem looksAt_eq_true_iff {r : Reviewer} (h : r.settings.IgnoresByTexts) (p : Path) :
    r.looksAt p = .ok true
      ↔ p.IsSource ∧ ¬ r.settings.Mentions p ∧ ¬ r.settings.Drops p := by
  by_cases hsource : p.IsSource
  · obtain ⟨looked, hlooked⟩ := exists_looksAt h p
    rw [hlooked, Except.ok.injEq, looksAt_ok hsource hlooked]
    exact (and_iff_right hsource).symm
  · have hending : (Text.lower p.suffix ≠ ".py" && Text.lower p.suffix ≠ ".pyi") = true := by
      simpa [Path.IsSource] using hsource
    have hskipped : r.looksAt p = .ok false := by
      unfold looksAt
      dsimp only
      rw [if_pos hending]
      rfl
    rw [hskipped]
    exact iff_of_false nofun fun hall => hsource hall.1

end Reviewer

/-! ## Agreement -/

namespace Settings

/-- All that says which files are left out is a list of texts, none of them empty as a path. -/
structure HasPatterns (s : Settings) : Prop where
  inclusions : s.includePatterns.IsPatterns
  paths : s.ignorePaths.IsPatterns
  files : s.ignoreFiles.IsPatterns

theorem HasPatterns.ignoresByTexts {s : Settings} (h : s.HasPatterns) : s.IgnoresByTexts :=
  ⟨h.paths.imp fun _ hts => hts.1, h.files⟩

theorem exists_anyOf_pathFits (p : Path) {ts : List Text}
    (h : ∀ t ∈ ts, (Path.ofText t).parts.isEmpty = false) :
    ∃ b, anyOf (pathFits p) (ts.map Value.text) = .ok b := by
  apply exists_anyOf
  intro v hv
  obtain ⟨t, ht, rfl⟩ := List.mem_map.mp hv
  exact p.exists_fits (h t ht)

theorem exists_anyOf_partOrFits (p : Path) {ts : List Text}
    (h : ∀ t ∈ ts, (Path.ofText t).parts.isEmpty = false) :
    ∃ b, anyOf (partOrFits p) (ts.map Value.text) = .ok b := by
  apply exists_anyOf
  intro v hv
  obtain ⟨t, ht, rfl⟩ := List.mem_map.mp hv
  apply Steps.exists_bind ⟨_, rfl⟩
  intro part
  cases part with
  | true => exact ⟨true, rfl⟩
  | false => exact p.exists_fits (h t ht)

theorem HasPatterns.exists_ignoresPath {s : Settings} (h : s.HasPatterns) {p : Path} (hp : p.Tidy) :
    ∃ b, s.ignoresPath p.toText = .ok b := by
  obtain ⟨⟨inclusions, hinclusions, hfirst⟩, ⟨paths, hpaths, hsecond⟩, files, hfiles, hthird⟩ := h
  unfold ignoresPath
  rw [Path.ofText_toText hp]
  simp only [hinclusions, hpaths, hfiles, Setting.members]
  apply Steps.exists_bind (exists_anyOf_pathFits p hfirst)
  intro kept
  cases kept with
  | true => exact ⟨false, rfl⟩
  | false =>
    apply Steps.exists_bind (exists_anyOf_partOrFits p hsecond)
    intro found
    cases found with
    | true => exact ⟨true, rfl⟩
    | false => exact exists_anyOf_pathFits p hthird

end Settings

namespace Reviewer

variable {r : Reviewer} {path : Text}

theorem exists_answers (h : r.settings.HasPatterns) (path : Text) :
    ∃ looked ignored, r.looksAt (Path.ofText path) = .ok looked
      ∧ r.settings.ignoresPath (Path.ofText path).toText = .ok ignored := by
  obtain ⟨looked, hlooked⟩ := exists_looksAt h.ignoresByTexts (Path.ofText path)
  obtain ⟨ignored, hignored⟩ := h.exists_ignoresPath (Path.tidy_ofText path)
  exact ⟨looked, ignored, hlooked, hignored⟩

theorem agree_iff (hsource : (Path.ofText path).IsSource) {looked ignored : Bool}
    (hlooked : r.looksAt (Path.ofText path) = .ok looked)
    (hignored : r.settings.ignoresPath (Path.ofText path).toText = .ok ignored) :
    (looked = true ↔ ignored = false) ↔
      (r.settings.Includes (Path.ofText path) →
        ¬ r.settings.Mentions (Path.ofText path) ∧ ¬ r.settings.Drops (Path.ofText path))
      ∧ (r.settings.Covers (Path.ofText path) → r.settings.Includes (Path.ofText path)
        ∨ r.settings.Mentions (Path.ofText path) ∨ r.settings.Drops (Path.ofText path)) := by
  have hlook := looksAt_ok hsource hlooked
  have hignore := Settings.ignoresPath_ok (Path.tidy_ofText path) hignored
  rw [← Bool.not_eq_true, hlook, hignore]
  constructor
  · intro hagree
    refine ⟨fun hin => hagree.mpr fun hout => hout.1 hin, fun hcovers => ?_⟩
    -- What a pattern covers and nothing else speaks of is left out, and would be looked at.
    by_contra hnone
    obtain ⟨hin, hmentions, hdrops⟩ : ¬ _ ∧ ¬ _ ∧ ¬ _ := by simpa only [not_or] using hnone
    exact hagree.mp ⟨hmentions, hdrops⟩ ⟨hin, .inr (.inl hcovers)⟩
  · rintro ⟨hincluded, hcovered⟩
    constructor
    · rintro ⟨hmentions, hdrops⟩ ⟨hin, hout⟩
      rcases hout with hm | hc | hd
      · exact hmentions hm
      · rcases hcovered hc with hi | hm | hd
        · exact hin hi
        · exact hmentions hm
        · exact hdrops hd
      · exact hdrops hd
    · intro hkept
      by_cases hin : r.settings.Includes (Path.ofText path)
      · exact hincluded hin
      · exact ⟨fun hm => hkept ⟨hin, .inl hm⟩, fun hd => hkept ⟨hin, .inr (.inr hd)⟩⟩

/-- When a reviewer looks at just those sources that its settings do not leave out. Both have an
answer for every path where the patterns are texts and none is empty. -/
theorem looksAt_iff_not_ignoresPath (r : Reviewer) (path : Text)
    (hsource : (Path.ofText path).IsSource) :
    let p := Path.ofText path
    let s := r.settings
    (s.HasPatterns → ∃ looked ignored,
      r.looksAt p = .ok looked ∧ s.ignoresPath p.toText = .ok ignored)
    ∧ ∀ looked ignored, r.looksAt p = .ok looked → s.ignoresPath p.toText = .ok ignored →
      ((looked = true ↔ ignored = false) ↔
        (s.Includes p → ¬ s.Mentions p ∧ ¬ s.Drops p)
        ∧ (s.Covers p → s.Includes p ∨ s.Mentions p ∨ s.Drops p)) :=
  ⟨fun h => exists_answers h path, fun _ _ => agree_iff hsource⟩

/-- Tests are left out, but for those right in a directory of tests. -/
def testing : Settings :=
  { Settings.standard with
    ignorePaths := .proper ["tests/"]
    includePatterns := .proper ["tests/*.py"] }

theorem testing_hasPatterns : testing.HasPatterns :=
  ⟨⟨_, rfl, by decide⟩, ⟨_, rfl, by decide⟩, _, rfl, by decide⟩

/-- The reviewer that leaves out tests. -/
def tester : Reviewer :=
  { settings := testing, analyzers := builtin testing }

/-- A test in a directory below is left out by both. -/
theorem looksAt_iff_not_ignoresPath_deep :
    (Path.ofText "tests/unit/a.py").IsSource ∧ tester.settings.HasPatterns
      ∧ ∃ looked ignored, tester.looksAt (Path.ofText "tests/unit/a.py") = .ok looked
        ∧ testing.ignoresPath (Path.ofText "tests/unit/a.py").toText = .ok ignored
        ∧ (looked = true ↔ ignored = false) := by
  have hsource : (Path.ofText "tests/unit/a.py").IsSource := by decide
  have hnotIncluded : ¬ testing.Includes (Path.ofText "tests/unit/a.py") := by
    rw [Settings.Includes, testing, Setting.hasOne_proper]
    rintro ⟨t, ht, hfits⟩
    rw [List.mem_singleton.mp ht] at hfits
    exact absurd hfits nofun
  have hmentioned : testing.Mentions (Path.ofText "tests/unit/a.py") := by
    rw [Settings.Mentions, testing, Setting.hasOne_proper]
    exact ⟨_, List.mem_singleton_self _, rfl⟩
  obtain ⟨hanswers, hagree⟩ := looksAt_iff_not_ignoresPath tester "tests/unit/a.py" hsource
  obtain ⟨looked, ignored, hlooked, hignored⟩ := hanswers testing_hasPatterns
  refine ⟨hsource, testing_hasPatterns, looked, ignored, hlooked, hignored, ?_⟩
  rw [hagree looked ignored hlooked hignored]
  exact ⟨fun h => absurd h hnotIncluded, fun _ => .inr (.inl hmentioned)⟩

/-- A test that is to be looked at in any case is not looked at. -/
theorem looksAt_included :
    ∃ s r, Settings.ofFields [] [("ignore_paths", .texts ["tests/"]),
        ("include_patterns", .texts ["tests/*.py"])] = .ok s
      ∧ Reviewer.new s [] = .ok r
      ∧ (Path.ofText "tests/a.py").IsSource
      ∧ s.ignoresPath (Path.ofText "tests/a.py").toText = .ok false
      ∧ r.looksAt (Path.ofText "tests/a.py") = .ok false :=
  ⟨testing, tester, rfl, rfl, by decide, rfl, rfl⟩

end Reviewer

end CodeReview
