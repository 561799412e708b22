import CodeReview.Proofs.Exclusion
import Mathlib.Data.List.Induction

/-!
# Where a directory lies

A reviewer collects the sources in a directory. Which of them it leaves out hangs on the whole text
of their paths, so it also hangs on the way to the directory. For the standard settings this comes
to one question: is an ignored path part of the text that the paths of all sources in the directory
start with? If so, nothing is collected, whatever is in the directory. If not, the sources that are
collected, by their names from the directory on, are those that would be collected if the directory
were the place where relative paths start. So two directories with the same in them agree wherever
the way to neither of them has such a part.
-/

namespace CodeReview

/-! ## Trees -/

/-- A directory with all that is below it, by the names on the way down. -/
structure Tree where
  item : List Text → Option Item
  top : item [] = some .directory
  /-- There is something below directories only. -/
  parent : ∀ {way n}, (item (way ++ [n])).isSome = true → item way = some .directory
  /-- No name leads back up. -/
  down : ∀ {way}, (item way).isSome = true → ['.', '.'] ∉ way

/-- A path leads to a tree. -/
def Disk.Holds (d : Disk) (p : Path) (t : Tree) : Prop :=
  ∃ q, d.place p = .ok q ∧ ∀ way, d.at? (q ++ way) = t.item way

namespace Tree

theorem isSome_of_append (t : Tree) {way rest : List Text}
    (h : (t.item (way ++ rest)).isSome = true) : (t.item way).isSome = true := by
  induction rest using List.reverseRecOn with
  | nil => rwa [List.append_nil] at h
  | append_singleton rest n ih =>
    rw [← List.append_assoc] at h
    exact ih (by rw [t.parent h]; rfl)

/-- Whatever has something below it is a directory. -/
theorem directory_of_append (t : Tree) {way rest : List Text} (hrest : rest ≠ [])
    (h : (t.item (way ++ rest)).isSome = true) : t.item way = some .directory := by
  obtain ⟨n, ns, rfl⟩ := List.exists_cons_of_ne_nil hrest
  rw [List.append_cons] at h
  exact t.parent (t.isSome_of_append h)

/-- What a walk through a tree comes to, in the top directory alone or at all levels. -/
def Lists (t : Tree) (deep : Bool) (way : List Text) : Prop :=
  way ≠ [] ∧ (t.item way).isSome = true ∧ (deep = true ∨ way.length = 1)

end Tree

variable {way : List Text}

namespace Disk

variable {d : Disk} {p : Path} {q : Place} {t : Tree}

theorem place_child (d : Disk) (p : Path) (n : Text) :
    d.place (p.child n) = d.place p >>= fun here => d.step here n := by
  rw [place, Path.child, List.foldlM_append]
  simp only [List.foldlM_cons, List.foldlM_nil, bind_pure]
  rfl

section

variable (hplace : d.place p = .ok q) (hitem : ∀ way, d.at? (q ++ way) = t.item way)
include hplace hitem

/-- A way in the tree leads from the path to the place below. -/
theorem place_under (h : (t.item way).isSome = true) :
    d.place (p.under way) = .ok (q ++ way) := by
  induction way using List.reverseRecOn with
  | nil => rwa [Path.under_nil, List.append_nil]
  | append_singleton way n ih =>
    have hdirectory : t.item way = some .directory := t.parent h
    have hname : n ≠ ['.', '.'] := by
      rintro rfl
      exact t.down h (List.mem_append_right _ (List.mem_singleton_self _))
    have hlast : d.step (q ++ way) n = .ok (q ++ way ++ [n]) := by
      rw [step, hitem, hdirectory]
      simp only [hname, if_false]
    rw [← Path.child_under, place_child, ih (by rw [hdirectory]; rfl), ← List.append_assoc]
    exact hlast

theorem isDirectory_under (h : (t.item way).isSome = true) :
    d.isDirectory (p.under way) = true ↔ t.item way = some .directory := by
  obtain ⟨item, hway⟩ := Option.isSome_iff_exists.mp h
  have hfind : d.find (p.under way) = .ok item := by
    simp only [find, place_under hplace hitem h, hitem, hway, bind, Except.bind]
  rw [isDirectory, hfind, hway]
  cases item <;> simp

end

theorem mem_namesIn (there : Place) (n : Text) :
    n ∈ d.namesIn there ↔ (d.at? (there ++ [n])).isSome = true := by
  rw [namesIn, at?, List.lookup_isSome_iff, List.mem_filterMap]
  constructor
  · rintro ⟨e, he, hname⟩
    split at hname
    · next hbelow =>
      obtain ⟨init, hinit⟩ := List.getLast?_eq_some_iff.mp hname
      simp only [hinit, List.dropLast_concat, Bool.and_eq_true, decide_eq_true_eq] at hbelow
      exact ⟨e, he, by rw [hinit, hbelow.2]; exact beq_self_eq_true _⟩
    · exact nomatch hname
  · rintro ⟨e, he, hkey⟩
    have heq : e.1 = there ++ [n] := (eq_of_beq hkey).symm
    refine ⟨e, he, ?_⟩
    simp [heq]

/-- There are at least as many items as there are names on a way down. -/
theorem length_le_items (hitem : ∀ way, d.at? (q ++ way) = t.item way)
    (h : (t.item way).isSome = true) : way.length ≤ d.items.length := by
  -- The places on the way are all different, and there is something at each of them.
  let places := (List.range way.length).map fun k => q ++ way.take k
  have hnodup : places.Nodup := by
    apply List.Nodup.map_on _ List.nodup_range
    intro j hj k hk heq
    have hlength := congrArg List.length (List.append_cancel_left heq)
    rw [List.mem_range] at hj hk
    rw [List.length_take_of_le (by omega), List.length_take_of_le (by omega)] at hlength
    exact hlength
  have hthere : places ⊆ d.items.map Prod.fst := by
    intro place hplace
    obtain ⟨k, _, rfl⟩ := List.mem_map.mp hplace
    have hwhole : (t.item (way.take k ++ way.drop k)).isSome = true := by
      rwa [List.take_append_drop]
    have hsome : (d.at? (q ++ way.take k)).isSome = true := by
      rw [hitem]
      exact t.isSome_of_append hwhole
    obtain ⟨e, he, hkey⟩ := List.lookup_isSome_iff.mp hsome
    exact List.mem_map.mpr ⟨e, he, (eq_of_beq hkey).symm⟩
  have hle := hnodup.length_le_of_subset hthere
  rwa [List.length_map, List.length_map, List.length_range] at hle

section

variable (hplace : d.place p = .ok q) (hitem : ∀ way, d.at? (q ++ way) = t.item way)
include hplace hitem

/-- A walk from any directory of the tree on. The count bounds how far down it goes. -/
theorem mem_below_under (deep : Bool) (levels : Nat) {here : List Text}
    (hhere : t.item here = some .directory) (c : Path) :
    c ∈ d.below deep levels (p.under here) ↔ ∃ way, way ≠ [] ∧ c = p.under (here ++ way)
      ∧ (t.item (here ++ way)).isSome = true ∧ (deep = true ∨ way.length = 1)
      ∧ way.length ≤ levels := by
  induction levels generalizing here with
  | zero =>
    refine iff_of_false List.not_mem_nil ?_
    rintro ⟨way, hne, _, _, _, hlength⟩
    exact hne (List.eq_nil_of_length_eq_zero (by omega))
  | succ levels ih =>
    have hthere : d.place (p.under here) = .ok (q ++ here) :=
      place_under hplace hitem (by rw [hhere]; rfl)
    have hnames : ∀ n, n ∈ d.namesIn (q ++ here) ↔ (t.item (here ++ [n])).isSome = true := by
      intro n
      rw [mem_namesIn, List.append_assoc, hitem]
    simp only [below, hthere, List.mem_flatMap, hnames, Path.child_under]
    constructor
    · rintro ⟨n, hn, hc⟩
      split at hc
      · next hdown =>
        rw [Bool.and_eq_true, isDirectory_under hplace hitem hn] at hdown
        rcases List.mem_cons.mp hc with rfl | hin
        · exact ⟨[n], by simp, rfl, hn, .inr rfl, by simp⟩
        · obtain ⟨way, _, rfl, hsome, _, hlength⟩ := (ih hdown.2).mp hin
          rw [List.append_assoc] at hsome ⊢
          exact ⟨n :: way, by simp, rfl, hsome, .inl hdown.1, by simpa using hlength⟩
      · rw [List.mem_singleton] at hc
        exact ⟨[n], by simp, hc, hn, .inr rfl, by simp⟩
    · rintro ⟨way, hne, hc, hsome, hlevel, hlength⟩
      obtain ⟨n, rest, rfl⟩ := List.exists_cons_of_ne_nil hne
      rw [List.append_cons] at hsome hc
      have hn : (t.item (here ++ [n])).isSome = true := t.isSome_of_append hsome
      refine ⟨n, hn, ?_⟩
      by_cases hrest : rest = []
      · rw [hc, hrest, List.append_nil]
        split <;> simp
      · -- A way of two names leads through a directory, and only a deep walk goes into one.
        obtain rfl : deep = true := by
          rcases hlevel with hdeep | hone
          · exact hdeep
          · exact absurd (List.eq_nil_of_length_eq_zero (by simpa using hone)) hrest
        have hdirectory : t.item (here ++ [n]) = some .directory :=
          t.directory_of_append hrest hsome
        rw [Bool.true_and, if_pos ((isDirectory_under hplace hitem hn).mpr hdirectory)]
        have hbelow := (ih hdirectory).mpr
          ⟨rest, hrest, hc, hsome, .inl rfl, by simpa using hlength⟩
        exact List.mem_cons_of_mem _ hbelow

end

/-- What is found below a path is what a walk through its tree comes to. -/
theorem mem_withEnding (h : d.Holds p t) (ending : Text) (deep : Bool) (c : Path) :
    c ∈ d.withEnding p ending deep ↔ ∃ way, t.Lists deep way ∧ c = p.under way
      ∧ Text.endsWith (Path.relative way).name ending = true := by
  obtain ⟨q, hplace, hitem⟩ := h
  have hsome : (t.item []).isSome = true := by rw [t.top]; rfl
  have htop : d.isDirectory p = true := by
    have hdirectory := (isDirectory_under hplace hitem hsome).mpr t.top
    rwa [Path.under_nil] at hdirectory
  have hbelow := mem_below_under hplace hitem deep (d.items.length + 1) t.top c
  rw [Path.under_nil] at hbelow
  rw [withEnding, if_pos htop, List.mem_filter, hbelow]
  simp only [List.nil_append]
  constructor
  · rintro ⟨⟨way, hne, rfl, hsome, hlevel, _⟩, hends⟩
    rw [Path.name_under p hne] at hends
    exact ⟨way, ⟨hne, hsome, hlevel⟩, rfl, hends⟩
  · rintro ⟨way, ⟨hne, hsome, hlevel⟩, rfl, hends⟩
    rw [Path.name_under p hne]
    have hlength := length_le_items hitem hsome
    exact ⟨⟨way, hne, rfl, hsome, hlevel, by omega⟩, hends⟩

end Disk

/-! ## Patterns that look at names -/

namespace Settings

/-- Settings that leave out files by parts of texts without a slash, but perhaps at their end, and
by patterns for one name. -/
structure IgnoresByNames (s : Settings) : Prop where
  paths : ∃ ts, s.ignorePaths = .proper ts ∧ ∀ t ∈ ts, '/' ∉ t.dropLast
  files : ∃ ts, s.ignoreFiles = .proper ts
    ∧ ∀ t ∈ ts, Path.ofText t = Path.relative [(Path.ofText t).name]

theorem standard_ignoresByNames : standard.IgnoresByNames :=
  ⟨⟨_, rfl, by decide⟩, _, rfl, by decide⟩

/-- No ignored path is part of what the texts of all paths below a path start with. -/
def Clears (s : Settings) (p : Path) : Prop :=
  ¬ s.ignorePaths.HasOne fun v => partOf v p.lead

theorem clears_iff {s : Settings} {ts : List Text} (h : s.ignorePaths = .proper ts) (p : Path) :
    s.Clears p ↔ ∀ t ∈ ts, Text.contains p.lead t = false := by
  rw [Clears, h, Setting.hasOne_proper]
  simp only [partOf, Except.ok.injEq, not_exists, not_and, Bool.not_eq_true]

namespace IgnoresByNames

variable {s : Settings} (h : s.IgnoresByNames)
include h

theorem ignoresByTexts : s.IgnoresByTexts := by
  refine ⟨h.paths.imp fun _ hts => hts.1, h.files.imp fun ts hts => ⟨hts.1, fun t ht => ?_⟩⟩
  rw [hts.2 t ht]
  rfl

theorem mentions_under {p : Path} (hp : p.Tidy) (hway : way ≠ []) :
    s.Mentions (p.under way) ↔ ¬ s.Clears p ∨ s.Mentions (Path.relative way) := by
  obtain ⟨ts, hts, hslash⟩ := h.paths
  have hpart : ∀ t u : Text, partOf (.text t) u = .ok true ↔ Text.contains u t = true := by
    intro t u
    rw [partOf, Except.ok.injEq]
  have hsplit : ∀ t ∈ ts, Text.contains (p.under way).toText t
      = (Text.contains p.lead t || Text.contains (Path.relative way).toText t) := by
    intro t ht
    rw [Path.toText_under p hway, Text.contains_append (Path.lead_slash hp) (hslash t ht)]
  rw [Clears, not_not, Mentions, Mentions, hts]
  simp only [Setting.hasOne_proper, hpart]
  constructor
  · rintro ⟨t, ht, hin⟩
    rw [hsplit t ht, Bool.or_eq_true] at hin
    exact hin.imp (fun hlead => ⟨t, ht, hlead⟩) fun hrest => ⟨t, ht, hrest⟩
  · rintro (⟨t, ht, hin⟩ | ⟨t, ht, hin⟩)
    · exact ⟨t, ht, by rw [hsplit t ht, hin, Bool.true_or]⟩
    · exact ⟨t, ht, by rw [hsplit t ht, hin, Bool.or_true]⟩

theorem drops_under (p : Path) (hway : way ≠ []) :
    s.Drops (p.under way) ↔ s.Drops (Path.relative way) := by
  obtain ⟨ts, hts, hsingle⟩ := h.files
  rw [Drops, Drops, hts, Setting.hasOne_proper, Setting.hasOne_proper]
  refine exists_congr fun t => and_congr_right fun ht => ?_
  have hnames : (p.under way).names ≠ [] := by simp [Path.under, hway]
  change (p.under way).fits t = _ ↔ (Path.relative way).fits t = _
  rw [Path.fits_of_single (hsingle t ht) hnames, Path.fits_of_single (hsingle t ht) hway,
    Path.name_under p hway]

end IgnoresByNames

end Settings

namespace Reviewer

/-- The way to a directory counts against all that is in it; the rest is the same everywhere. -/
theorem looksAt_under {r : Reviewer} (h : r.settings.IgnoresByNames) {p : Path} (hp : p.Tidy)
    (hway : way ≠ []) :
    r.looksAt (p.under way) = .ok true
      ↔ r.settings.Clears p ∧ r.looksAt (Path.relative way) = .ok true := by
  have hsource : (p.under way).IsSource ↔ (Path.relative way).IsSource := by
    rw [Path.IsSource, Path.IsSource, Path.suffix_under p hway]
  rw [looksAt_eq_true_iff h.ignoresByTexts, looksAt_eq_true_iff h.ignoresByTexts, hsource,
    h.mentions_under hp hway, h.drops_under p hway, not_or, not_not]
  constructor
  · rintro ⟨hs, ⟨hclear, hm⟩, hd⟩
    exact ⟨hclear, hs, hm, hd⟩
  · rintro ⟨hclear, hs, hm, hd⟩
    exact ⟨hs, ⟨hclear, hm⟩, hd⟩

theorem exists_collect {r : Reviewer} (h : r.settings.IgnoresByTexts) (disk : Disk) (p : Path)
    (deep : Bool) :
    ∃ files, r.collect disk p deep = .ok files
      ∧ ∀ c, c ∈ files ↔ c ∈ disk.withEnding p ".py" deep ∧ r.looksAt c = .ok true := by
  let test (c : Path) : Bool := (r.looksAt c).toOption.getD false
  have htest : ∀ c, r.looksAt c = .ok (test c) := by
    intro c
    obtain ⟨looked, hlooked⟩ := exists_looksAt h c
    simp only [test, hlooked]
    rfl
  refine ⟨((disk.withEnding p ".py" deep).filter test).mergeSort Path.le, ?_, fun c => ?_⟩
  · rw [collect, Steps.filterM_ok fun c _ => htest c]
    rfl
  · rw [List.mem_mergeSort, List.mem_filter, htest c, Except.ok.injEq]

end Reviewer

/-- The sources of a tree that a reviewer collects where relative paths start. -/
def Tree.Offers (t : Tree) (r : Reviewer) (deep : Bool) (x : Path) : Prop :=
  ∃ way, t.Lists deep way ∧ x = Path.relative way ∧ Text.endsWith x.name ".py" = true
    ∧ r.looksAt x = .ok true

namespace Reviewer

/-- The names of paths from a directory on. -/
def namedFrom (dir : Path) (files : List Path) : List Path :=
  files.filterMap (·.relativeTo? dir)

/-- What is collected from a tree, by the names from its directory on. -/
theorem collect_of_holds {r : Reviewer} (h : r.settings.IgnoresByNames) {t : Tree} {disk : Disk}
    {p : Path} (hp : p.Tidy) (hholds : disk.Holds p t) (deep : Bool) :
    ∃ files, r.collect disk p deep = .ok files
      ∧ (∀ c ∈ files, (c.relativeTo? p).isSome = true)
      ∧ (¬ r.settings.Clears p → files = [])
      ∧ ∀ x, x ∈ namedFrom p files ↔ r.settings.Clears p ∧ t.Offers r deep x := by
  obtain ⟨files, hfiles, hmem⟩ := exists_collect h.ignoresByTexts disk p deep
  -- A file is told by its way from the directory, which does not depend on where that is.
  have hways : ∀ c, c ∈ files ↔ r.settings.Clears p
      ∧ ∃ way, c = p.under way ∧ t.Lists deep way
        ∧ Text.endsWith (Path.relative way).name ".py" = true
        ∧ r.looksAt (Path.relative way) = .ok true := by
    intro c
    rw [hmem, Disk.mem_withEnding hholds]
    constructor
    · rintro ⟨⟨way, hlists, rfl, hends⟩, hlooked⟩
      have hboth := (looksAt_under h hp hlists.1).mp hlooked
      exact ⟨hboth.1, way, rfl, hlists, hends, hboth.2⟩
    · rintro ⟨hclears, way, rfl, hlists, hends, hlooked⟩
      exact ⟨⟨way, hlists, rfl, hends⟩, (looksAt_under h hp hlists.1).mpr ⟨hclears, hlooked⟩⟩
  refine ⟨files, hfiles, fun c hc => ?_, fun hnot => ?_, fun x => ?_⟩
  · obtain ⟨_, way, rfl, _⟩ := (hways c).mp hc
    rw [Path.relativeTo?_under]
    rfl
  · apply List.eq_nil_iff_forall_not_mem.mpr
    exact fun c hc => hnot ((hways c).mp hc).1
  · rw [namedFrom, List.mem_filterMap]
    constructor
    · rintro ⟨c, hc, hx⟩
      obtain ⟨hclears, way, rfl, hlists, hends, hlooked⟩ := (hways c).mp hc
      rw [Path.relativeTo?_under] at hx
      obtain rfl := Option.some_inj.mp hx
      exact ⟨hclears, way, hlists, rfl, hends, hlooked⟩
    · rintro ⟨hclears, way, hlists, rfl, hends, hlooked⟩
      exact ⟨p.under way, (hways _).mpr ⟨hclears, way, rfl, hlists, hends, hlooked⟩,
        Path.relativeTo?_under p way⟩

/-- Two directories with the same in them, wherever they are. Where no ignored path is part of the
way to either, the same sources are collected from both, by their names from there on; where one is
part of the way to a directory, nothing is collected from it. -/
theorem collect_alike (t : Tree) {disk disk' : Disk} {dir dir' : Text}
    (hdir : disk.Holds (Path.ofText dir) t) (hdir' : disk'.Holds (Path.ofText dir') t)
    (deep : Bool) :
    ∃ r files files', Reviewer.new .standard [] = .ok r
      ∧ r.collect disk (Path.ofText dir) deep = .ok files
      ∧ r.collect disk' (Path.ofText dir') deep = .ok files'
      ∧ (∀ c ∈ files, (c.relativeTo? (Path.ofText dir)).isSome = true)
      ∧ (∀ c ∈ files', (c.relativeTo? (Path.ofText dir')).isSome = true)
      ∧ (Settings.standard.Clears (Path.ofText dir) →
          ∀ x, x ∈ namedFrom (Path.ofText dir) files ↔ t.Offers r deep x)
      ∧ (Settings.standard.Clears (Path.ofText dir) → Settings.standard.Clears (Path.ofText dir') →
          ∀ x, x ∈ namedFrom (Path.ofText dir) files ↔ x ∈ namedFrom (Path.ofText dir') files')
      ∧ (¬ Settings.standard.Clears (Path.ofText dir) → files = [])
      ∧ (¬ Settings.standard.Clears (Path.ofText dir') → files' = []) := by
  have hnames : standard.settings.IgnoresByNames := Settings.standard_ignoresByNames
  obtain ⟨files, hfiles, hbelow, hnone, hmem⟩ :=
    collect_of_holds hnames (Path.tidy_ofText dir) hdir deep
  obtain ⟨files', hfiles', hbelow', hnone', hmem'⟩ :=
    collect_of_holds hnames (Path.tidy_ofText dir') hdir' deep
  refine ⟨standard, files, files', new_standard, hfiles, hfiles', hbelow, hbelow', ?_, ?_, hnone,
    hnone'⟩
  · exact fun hclear x => (hmem x).trans (and_iff_right hclear)
  · intro hclear hclear' x
    exact ((hmem x).trans (and_iff_right hclear)).trans
      ((hmem' x).trans (and_iff_right hclear')).symm

/-- A directory with one source in it. -/
def oneSource : Tree where
  item way := if way = [] then some .directory
    else if way = [['a', '.', 'p', 'y']] then some (.file []) else none
  top := rfl
  parent := by
    intro way n h
    by_cases hway : way = []
    · rw [if_pos hway]
    · have hlong : way ++ [n] ≠ [['a', '.', 'p', 'y']] := by
        intro heq
        have hlength := congrArg List.length heq
        rw [List.length_append, List.length_singleton, List.length_singleton] at hlength
        exact hway (List.eq_nil_of_length_eq_zero (by omega))
      simp [hlong] at h
  down := by
    intro way h
    by_cases hway : way = []
    · simp [hway]
    · by_cases hsource : way = [['a', '.', 'p', 'y']]
      · rw [hsource]
        decide
      · simp [hway, hsource] at h

/-- The same directory under three names. -/
def threefold : Disk where
  items := [([], .directory), (["src"], .directory), (["src", "a.py"], .file []),
    (["lib"], .directory), (["lib", "a.py"], .file []), (["build"], .directory),
    (["build", "a.py"], .file [])]
  home := []

theorem threefold_holds {dir : Text} (h : dir = "src" ∨ dir = "lib" ∨ dir = "build") :
    threefold.Holds (Path.ofText dir) oneSource := by
  refine ⟨[dir], ?_, fun way => ?_⟩
  · rcases h with rfl | rfl | rfl <;> rfl
  · by_cases hway : way = []
    · rcases h with rfl | rfl | rfl <;> rw [hway] <;> rfl
    · by_cases hsource : way = [['a', '.', 'p', 'y']]
      · rcases h with rfl | rfl | rfl <;> rw [hsource] <;> rfl
      · have hempty : List.isEmpty way = false := by simpa using hway
        have hother : (way == [['a', '.', 'p', 'y']]) = false := beq_eq_false_iff_ne.mpr hsource
        rcases h with rfl | rfl | rfl <;>
          simp [threefold, Disk.at?, oneSource, List.lookup_cons, hway, hsource, hempty, hother]

theorem oneSource_offers : oneSource.Offers standard true (Path.relative ["a.py"]) :=
  ⟨["a.py"], ⟨by simp, rfl, .inl rfl⟩, rfl, by decide, rfl⟩

theorem clears_src : Settings.standard.Clears (Path.ofText "src") := by
  rw [Settings.clears_iff rfl]
  decide

theorem collect_alike_lib :
    threefold.Holds (Path.ofText "src") oneSource ∧ threefold.Holds (Path.ofText "lib") oneSource
      ∧ ∃ r files files', Reviewer.new .standard [] = .ok r
        ∧ r.collect threefold (Path.ofText "src") true = .ok files
        ∧ r.collect threefold (Path.ofText "lib") true = .ok files'
        ∧ Path.relative ["a.py"] ∈ namedFrom (Path.ofText "src") files
        ∧ Path.relative ["a.py"] ∈ namedFrom (Path.ofText "lib") files' := by
  have hsrc := threefold_holds (.inl rfl)
  have hlib := threefold_holds (.inr (.inl rfl))
  have hclear : Settings.standard.Clears (Path.ofText "lib") := by
    rw [Settings.clears_iff rfl]
    decide
  obtain ⟨r, files, files', hr, hfiles, hfiles', _, _, hoffers, hsame, _⟩ :=
    collect_alike oneSource hsrc hlib true
  obtain rfl := Except.ok.inj (new_standard.symm.trans hr)
  have hin : Path.relative ["a.py"] ∈ namedFrom (Path.ofText "src") files :=
    (hoffers clears_src _).mpr oneSource_offers
  exact ⟨hsrc, hlib, standard, files, files', hr, hfiles, hfiles', hin,
    (hsame clears_src hclear _).mp hin⟩

/-- Nothing is collected from a directory that is called like a place for what is built, and a
source is collected from the same directory under another name. -/
theorem collect_differs :
    threefold.Holds (Path.ofText "src") oneSource ∧ threefold.Holds (Path.ofText "build") oneSource
      ∧ ∃ r files, Reviewer.new .standard [] = .ok r
        ∧ r.collect threefold (Path.ofText "src") true = .ok files
        ∧ r.collect threefold (Path.ofText "build") true = .ok []
        ∧ Path.relative ["a.py"] ∈ namedFrom (Path.ofText "src") files := by
  have hsrc := threefold_holds (.inl rfl)
  have hbuild := threefold_holds (.inr (.inr rfl))
  have hnames : standard.settings.IgnoresByNames := Settings.standard_ignoresByNames
  have hnot : ¬ standard.settings.Clears (Path.ofText "build") := by
    rw [Settings.clears_iff rfl]
    decide
  obtain ⟨files, hfiles, _, _, hmem⟩ := collect_of_holds hnames (Path.tidy_ofText "src") hsrc true
  obtain ⟨built, hbuilt, _, hnone, _⟩ :=
    collect_of_holds hnames (Path.tidy_ofText "build") hbuild true
  exact ⟨hsrc, hbuild, standard, files, new_standard, hfiles, hnone hnot ▸ hbuilt,
    (hmem _).mpr ⟨clears_src, oneSource_offers⟩⟩

end Reviewer

end CodeReview
