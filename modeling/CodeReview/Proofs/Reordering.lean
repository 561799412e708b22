import CodeReview.Proofs.Duplicates
import Mathlib.Data.Set.Basic

/-!
# Groups in any order of the files

The blocks of some files and their digests are the same in any order of the files, so that a group
is the same set of places. Whether it is reported is decided by its first block, and which one that
is depends on the order: it is the first with the digest in whichever of the files comes first. So
the order does not matter just if the first blocks with a digest in all files agree in being full.
-/

namespace CodeReview.Likeness

/-- The places of the blocks of a group. -/
def Duplicate.places (d : Duplicate) : Set (Text × Int) :=
  {p | ∃ w ∈ d.windows, w.place = p}

/-- What is reported, each group as the set of its places. -/
def reported (files : Entries Text) (count : Int) : Set (Set (Text × Int)) :=
  {places | ∃ d ∈ duplicates files count, d.places = places}

/-- The places of all blocks with the digest of `a`. -/
def kind (files : Entries Text) (count : Int) (a : Window) : Set (Text × Int) :=
  {p | ∃ w, IsBlock files count w ∧ sourceDigest w.text = sourceDigest a.text ∧ w.place = p}

/-- Some other block has the digest of `a`. -/
def ComesAgain (files : Entries Text) (count : Int) (a : Window) : Prop :=
  ∃ b, IsBlock files count b ∧ b ≠ a ∧ sourceDigest b.text = sourceDigest a.text

/-- The first block with its digest in its own file. -/
def LeadsFile (files : Entries Text) (count : Int) (a : Window) : Prop :=
  IsBlock files count a ∧ ∀ w, IsBlock files count w → w.file = a.file →
    sourceDigest w.text = sourceDigest a.text → a.line ≤ w.line

section

variable {files other : Entries Text} {count : Int} {a b : Window}

/-! ## One order -/

theorem Duplicate.Gathers.places_eq {d : Duplicate} (h : d.Gathers files count sourceDigest a) :
    d.places = kind files count a := by
  ext p
  simp only [Duplicate.places, kind, Set.mem_ofPred_eq, h.mem_windows, and_assoc]

theorem mem_reported_iff (hnames : files.names.Nodup) (hcount : 0 ≤ count)
    {places : Set (Text × Int)} :
    places ∈ reported files count ↔ ∃ a, IsFirst files count sourceDigest a
      ∧ ComesAgain files count a ∧ isFull count a.text = true ∧ kind files count a = places := by
  constructor
  · rintro ⟨d, hd, rfl⟩
    obtain ⟨a, -, hgathers⟩ := gathers_of_mem_duplicates hnames hcount hd
    obtain ⟨hfirst, hagain, hfull⟩ := (exists_gathers_iff hnames hcount).mp ⟨d, hd, hgathers⟩
    exact ⟨a, hfirst, hagain, hfull, hgathers.places_eq.symm⟩
  · rintro ⟨a, hfirst, hagain, hfull, rfl⟩
    obtain ⟨d, hd, hgathers⟩ := (exists_gathers_iff hnames hcount).mpr ⟨hfirst, hagain, hfull⟩
    exact ⟨d, hd, hgathers.places_eq⟩

theorem place_mem_kind_iff (hnames : files.names.Nodup) (hb : IsBlock files count b) :
    b.place ∈ kind files count a ↔ sourceDigest b.text = sourceDigest a.text := by
  constructor
  · rintro ⟨w, hw, hdigest, hplace⟩
    rw [← eq_of_place_eq hnames hw hb hplace]
    exact hdigest
  · exact fun hdigest => ⟨b, hb, hdigest, rfl⟩

/-- The first block of a kind decides whether the kind is reported. -/
theorem IsFirst.kind_mem_reported_iff (hfirst : IsFirst files count sourceDigest a)
    (hnames : files.names.Nodup) (hcount : 0 ≤ count) (hagain : ComesAgain files count a) :
    kind files count a ∈ reported files count ↔ isFull count a.text = true := by
  rw [mem_reported_iff hnames hcount]
  constructor
  · rintro ⟨a', hfirst', -, hfull, hkind⟩
    have hplace : a.place ∈ kind files count a' := by
      rw [hkind]
      exact (place_mem_kind_iff hnames hfirst.1).mpr rfl
    obtain rfl := hfirst.eq hfirst' ((place_mem_kind_iff hnames hfirst.1).mp hplace)
    exact hfull
  · exact fun hfull => ⟨a, hfirst, hagain, hfull, rfl⟩

theorem exists_isFirst (hnames : files.names.Nodup) (hcount : 0 ≤ count)
    (ha : IsBlock files count a) :
    ∃ f, IsFirst files count sourceDigest f ∧ sourceDigest f.text = sourceDigest a.text := by
  -- The digest gets a name, since its computation has no part in what follows.
  obtain ⟨digest, hdigest⟩ : ∃ digest, sourceDigest a.text = digest := ⟨_, rfl⟩
  have hmem : a ∈ withDigest digest (scan files count) :=
    mem_withDigest_iff.mpr ⟨(mem_scan_iff hcount).mpr ha, hdigest⟩
  obtain ⟨f, hfirst, -, hf⟩ := gathers_withDigest
    (d := ⟨digest, withDigest digest (scan files count), count⟩) hnames hcount rfl
    (List.ne_nil_of_mem hmem)
  exact ⟨f, hfirst, hf.trans hdigest.symm⟩

theorem IsFirst.leadsFile (h : IsFirst files count sourceDigest a) : LeadsFile files count a := by
  refine ⟨h.1, fun w hw hfile hdigest => ?_⟩
  rcases h.2 w hw hdigest with rfl | hfiles | ⟨-, hline⟩
  · exact le_rfl
  · rw [hfile] at hfiles
    omega
  · exact hline.le

theorem LeadsFile.eq (ha : LeadsFile files count a) (hb : LeadsFile files count b)
    (hnames : files.names.Nodup) (hfile : a.file = b.file)
    (hdigest : sourceDigest a.text = sourceDigest b.text) : a = b := by
  have hline : a.line = b.line :=
    le_antisymm (ha.2 b hb.1 hfile.symm hdigest.symm) (hb.2 a ha.1 hfile hdigest)
  exact eq_of_place_eq hnames ha.1 hb.1 (Prod.ext hfile hline)

/-! ## Other orders -/

theorem isBlock_perm (h : other.Perm files) : IsBlock other count a ↔ IsBlock files count a := by
  unfold IsBlock
  simp only [h.mem_iff]

theorem kind_perm (h : other.Perm files) : kind other count a = kind files count a := by
  unfold kind
  simp only [isBlock_perm h]

theorem comesAgain_perm (h : other.Perm files) :
    ComesAgain other count a ↔ ComesAgain files count a := by
  unfold ComesAgain
  simp only [isBlock_perm h]

theorem leadsFile_perm (h : other.Perm files) :
    LeadsFile other count a ↔ LeadsFile files count a := by
  unfold LeadsFile
  simp only [isBlock_perm h]

theorem nodup_names_perm (h : other.Perm files) (hnames : files.names.Nodup) :
    other.names.Nodup :=
  (h.map _).nodup_iff.mpr hnames

/-- The order in which the file of a block comes first makes the block the first of its kind, if it
is the first in its file. -/
theorem LeadsFile.exists_perm (h : LeadsFile files count a) (hnames : files.names.Nodup) :
    ∃ order, order.Perm files ∧ IsFirst order count sourceDigest a := by
  have ⟨source, _, _, _, hsource, _⟩ := h.1
  have hperm := (List.perm_cons_erase hsource).symm
  refine ⟨_, hperm, (isBlock_perm hperm).mpr h.1, fun w hw hdigest => ?_⟩
  rw [isBlock_perm hperm] at hw
  by_cases hfile : w.file = a.file
  · rcases (h.2 w hw hfile hdigest).eq_or_lt with hline | hline
    · exact .inl (eq_of_place_eq hnames hw h.1 (Prod.ext hfile hline.symm))
    · exact .inr (.inr ⟨hfile.symm, hline⟩)
  · refine .inr (.inl ?_)
    rw [Entries.names_cons, List.idxOf_cons_self, List.idxOf_cons_ne _ (Ne.symm hfile)]
    exact Nat.succ_pos _

theorem kind_eq (h : sourceDigest a.text = sourceDigest b.text) :
    kind files count a = kind files count b := by
  unfold kind
  rw [h]

/-- What is reported in one order is reported in another where the first blocks agree. -/
theorem reported_subset {one : Entries Text} (hone : one.Perm files) (hother : other.Perm files)
    (hnames : files.names.Nodup) (hcount : 0 ≤ count)
    (hagree : ∀ a b, LeadsFile files count a → LeadsFile files count b →
      sourceDigest a.text = sourceDigest b.text → isFull count a.text = isFull count b.text) :
    reported one count ⊆ reported other count := by
  intro places hplaces
  obtain ⟨a, hfirst, hagain, hfull, rfl⟩ :=
    (mem_reported_iff (nodup_names_perm hone hnames) hcount).mp hplaces
  rw [comesAgain_perm hone] at hagain
  obtain ⟨f, hfirst', hdigest⟩ := exists_isFirst (nodup_names_perm hother hnames) hcount
    ((isBlock_perm hother).mpr ((isBlock_perm hone).mp hfirst.1))
  have hagain' : ComesAgain other count f := by
    rw [comesAgain_perm hother]
    by_cases hf : f = a
    · rw [hf]
      exact hagain
    · exact ⟨a, (isBlock_perm hone).mp hfirst.1, Ne.symm hf, hdigest.symm⟩
  have hsame := hagree f a ((leadsFile_perm hother).mp hfirst'.leadsFile)
    ((leadsFile_perm hone).mp hfirst.leadsFile) hdigest
  rw [kind_perm hone, ← kind_eq hdigest, ← kind_perm hother]
  exact (hfirst'.kind_mem_reported_iff (nodup_names_perm hother hnames) hcount hagain').mpr
    (hsame.trans hfull)

/-- The order of the files has no part in what is reported just if the first blocks with a digest in
the files that have it are all full or all not. -/
theorem reported_orders_iff (hnames : files.names.Nodup) (hcount : 1 ≤ count) :
    (∀ one other : Entries Text, one.Perm files → other.Perm files →
        reported one count = reported other count)
      ↔ ∀ a b, LeadsFile files count a → LeadsFile files count b →
        sourceDigest a.text = sourceDigest b.text → isFull count a.text = isFull count b.text := by
  have hcount : 0 ≤ count := by omega
  constructor
  · intro h a b ha hb hdigest
    by_cases hfile : a.file = b.file
    · rw [ha.eq hb hnames hfile hdigest]
    -- Each of the two files comes first in some order, and both orders report the same.
    have hne : a ≠ b := fun heq => hfile (heq ▸ rfl)
    obtain ⟨one, hone, hfirst⟩ := ha.exists_perm hnames
    obtain ⟨other, hother, hfirst'⟩ := hb.exists_perm hnames
    have hagain : ComesAgain one count a :=
      (comesAgain_perm hone).mpr ⟨b, hb.1, hne.symm, hdigest.symm⟩
    have hagain' : ComesAgain other count b :=
      (comesAgain_perm hother).mpr ⟨a, ha.1, hne, hdigest⟩
    have hkind : kind one count a = kind other count b := by
      rw [kind_perm hone, kind_perm hother, kind_eq hdigest]
    rw [Bool.eq_iff_iff,
      ← hfirst.kind_mem_reported_iff (nodup_names_perm hone hnames) hcount hagain,
      ← hfirst'.kind_mem_reported_iff (nodup_names_perm hother hnames) hcount hagain', hkind,
      h one other hone hother]
  · intro h one other hone hother
    exact Set.Subset.antisymm (reported_subset hone hother hnames hcount h)
      (reported_subset hother hone hnames hcount h)

end

/-- No block of these files is blank at its start or its end. -/
theorem reported_orders_echoing :
    echoing.names.Nodup ∧ ∀ one other : Entries Text, one.Perm echoing → other.Perm echoing →
      reported one 2 = reported other 2 := by
  have hnames : echoing.names.Nodup := by decide +kernel
  have hfull (a : Window) (ha : IsBlock echoing 2 a) : isFull 2 a.text = true := by
    have hall : ((scan echoing 2).all fun w => isFull 2 w.text) = true := by decide +kernel
    exact List.all_eq_true.mp hall a ((mem_scan_iff (by decide)).mpr ha)
  refine ⟨hnames, (reported_orders_iff hnames (by decide)).mpr fun a b ha hb _ => ?_⟩
  rw [hfull a ha.1, hfull b hb.1]

/-- Two lines with a blank line after them, and with a comment between them. -/
def fading : Entries Text :=
  [("a.py", "x = 1\ny = 2\n"), ("b.py", "x = 1\n# note\ny = 2")]

/-- The other way round the two blocks are a group, and as they are given they are none. -/
theorem reported_fading_ne :
    fading.reverse.Perm fading ∧ reported fading.reverse 3 ≠ reported fading 3 := by
  refine ⟨List.reverse_perm fading, fun heq => ?_⟩
  have hnone : duplicates fading 3 = [] := List.isEmpty_iff.mp (by decide +kernel)
  have hsome : duplicates fading.reverse 3 ≠ [] := mt List.isEmpty_iff.mpr (by decide +kernel)
  obtain ⟨d, hd⟩ := List.exists_mem_of_ne_nil _ hsome
  have hmem : d.places ∈ reported fading 3 := heq ▸ ⟨d, hd, rfl⟩
  obtain ⟨e, he, -⟩ := hmem
  rw [hnone] at he
  exact absurd he List.not_mem_nil

end CodeReview.Likeness
