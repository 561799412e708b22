import CodeReview.Likeness.Duplicates
import CodeReview.Proofs.Chunks
import CodeReview.Proofs.Entries
import CodeReview.Proofs.Tallies

/-!
# Blocks that occur more than once

A scan goes over the files as they are given and over the lines of each from the top, and puts every
block to those with its digest. What a digest leads to in the end is the list of all blocks with it,
so a group is known by its first block. Where digests tell the normal forms of the blocks apart, the
groups are those of the normal forms: each normal form that comes twice has one group, unless its
first block is blank at its start or its end, and no block is in two of them.
-/

namespace CodeReview.Likeness

open Entries (names get?)

/-! ## Digests as texts -/

theorem ofHex_pair (b : UInt8) :
    ∃ x y, Text.hex 2 b.toNat = [x, y] ∧ UInt8.ofNat (hexDigit x * 16 + hexDigit y) = b := by
  have hall : ((List.range 256).all fun n => (Text.hex 2 n).length = 2
      && Bytes.ofHex (Text.hex 2 n) = [UInt8.ofNat n]) = true := by decide +kernel
  have hb := List.all_eq_true.mp hall b.toNat (List.mem_range.mpr b.toNat_lt)
  rw [Bool.and_eq_true, decide_eq_true_eq, decide_eq_true_eq, UInt8.ofNat_toNat] at hb
  obtain ⟨x, y, hpair⟩ := List.length_eq_two.mp hb.1
  rw [hpair] at hb
  exact ⟨x, y, hpair, List.singleton_injective hb.2⟩

theorem ofHex_hex (bs : Bytes) : Bytes.ofHex (Digest.hex bs) = bs := by
  induction bs with
  | nil => rfl
  | cons b bs ih =>
    obtain ⟨x, y, hpair, hb⟩ := ofHex_pair b
    have hhex : Digest.hex (b :: bs) = x :: y :: Digest.hex bs := by
      rw [Digest.hex, List.flatMap_cons, hpair]
      rfl
    rw [hhex, Bytes.ofHex, hb, ih]

/-- Two different texts have one digest. -/
def Collide (s t : Text) : Prop :=
  s ≠ t ∧ Digest.sha256 s.utf8 = Digest.sha256 t.utf8

theorem textDigest_eq_iff {s t : Text} (h : ¬ Collide s t) :
    textDigest s = textDigest t ↔ s = t := by
  constructor
  · intro heq
    have hbytes := congrArg Bytes.ofHex heq
    rw [textDigest, textDigest, ofHex_hex, ofHex_hex] at hbytes
    exact by_contra fun hne => h ⟨hne, hbytes⟩
  · exact congrArg textDigest

/-! ## All blocks of some files -/

/-- Where a block starts. -/
def Window.place (w : Window) : Text × Int :=
  (w.file, w.line)

/-- A block of `count` lines that follow each other in one of the files. -/
def IsBlock (files : Entries Text) (count : Int) (w : Window) : Prop :=
  ∃ source before block after, (w.file, source) ∈ files
    ∧ Text.lines source = before ++ block ++ after ∧ (block.length : Int) = count
    ∧ w.line = before.length + 1 ∧ w.text = Text.unlines block

/-- One block starts before another: in a file that is given before, or above it in the same
file. -/
def Precedes (files : Entries Text) (a b : Window) : Prop :=
  files.names.idxOf a.file < files.names.idxOf b.file ∨ a.file = b.file ∧ a.line < b.line

instance (files : Entries Text) (a b : Window) : Decidable (Precedes files a b) :=
  inferInstanceAs (Decidable (_ ∨ _))

/-- The blocks in the order in which they are looked at. -/
def scan (files : Entries Text) (count : Int) : List Window :=
  files.flatMap fun f => windows count f.1 f.2

section

variable {files : Entries Text} {count : Int} {a b : Window}

theorem Precedes.asymm (h : Precedes files a b) : ¬ Precedes files b a := by
  unfold Precedes at h ⊢
  rintro (hfile | ⟨hfile, hline⟩)
  · rcases h with hfile' | ⟨hfile', -⟩
    · omega
    · rw [hfile'] at hfile
      omega
  · rw [hfile] at h
    rcases h with hfile' | ⟨-, hline'⟩ <;> omega

theorem Precedes.place_ne (h : Precedes files a b) : a.place ≠ b.place := by
  intro heq
  obtain ⟨hfile, hline⟩ := Prod.mk.inj heq
  rcases h with hfile' | ⟨-, hline'⟩
  · rw [show a.file = b.file from hfile] at hfile'
    omega
  · rw [show a.line = b.line from hline] at hline'
    omega

theorem mem_windows_iff {n : Nat} {file source : Text} {w : Window} :
    w ∈ windows n file source ↔ w.file = file ∧ ∃ before block after,
      Text.lines source = before ++ block ++ after ∧ (block.length : Int) = n
        ∧ w.line = before.length + 1 ∧ w.text = Text.unlines block := by
  have hslice (ls : List Text) (i : Nat) : Text.slice ls i (i + n) = (ls.drop i).take n := by
    rw [← Nat.cast_add, Text.slice_natCast, Nat.add_sub_cancel_left]
  unfold windows
  simp only [List.mem_map, List.mem_range, hslice]
  constructor
  · rintro ⟨i, hi, rfl⟩
    refine ⟨rfl, (Text.lines source).take i, ((Text.lines source).drop i).take n,
      ((Text.lines source).drop i).drop n, ?_, ?_, ?_, rfl⟩
    · rw [List.append_assoc, List.take_append_drop, List.take_append_drop]
    · rw [List.length_take, List.length_drop]
      omega
    · rw [List.length_take, Nat.min_eq_left (by omega)]
  · rintro ⟨hfile, before, block, after, hlines, hblock, hline, htext⟩
    have hlength := congrArg List.length hlines
    rw [List.length_append, List.length_append] at hlength
    refine ⟨before.length, by omega, ?_⟩
    rw [hlines, List.append_assoc, List.drop_left, List.take_left' (by omega), ← hfile, ← hline,
      ← htext]

theorem mem_scan_iff (hcount : 0 ≤ count) {w : Window} :
    w ∈ scan files count ↔ IsBlock files count w := by
  obtain ⟨n, rfl⟩ := Int.eq_ofNat_of_zero_le hcount
  unfold scan IsBlock
  rw [List.mem_flatMap]
  constructor
  · rintro ⟨⟨file, source⟩, hf, hw⟩
    obtain ⟨rfl, before, block, after, h⟩ := mem_windows_iff.mp hw
    exact ⟨source, before, block, after, hf, h⟩
  · rintro ⟨source, before, block, after, hf, h⟩
    exact ⟨_, hf, mem_windows_iff.mpr ⟨rfl, before, block, after, h⟩⟩

theorem pairwise_scan (hnames : files.names.Nodup) (count : Int) :
    (scan files count).Pairwise (Precedes files) := by
  rw [scan, List.pairwise_flatMap]
  constructor
  · intro f _
    rw [windows, List.pairwise_map]
    exact List.pairwise_lt_range.imp fun h => .inr ⟨rfl, by simpa using h⟩
  · rw [List.pairwise_iff_getElem]
    intro i j hi hj hij a ha b hb
    have hfile {k : Nat} (hk : k < files.length) {w : Window}
        (hw : w ∈ windows count files[k].1 files[k].2) : files.names.idxOf w.file = k := by
      have hw : w.file = files[k].1 := by
        unfold windows at hw
        obtain ⟨_, -, rfl⟩ := List.mem_map.mp hw
        rfl
      have hk' : k < files.names.length := by rwa [Entries.names, List.length_map]
      have hget : files.names[k] = files[k].1 := by simp [Entries.names]
      rw [hw, ← hget, hnames.idxOf_getElem]
    left
    rw [hfile hi ha, hfile hj hb]
    exact hij

theorem eq_of_place_eq (hnames : files.names.Nodup) (ha : IsBlock files count a)
    (hb : IsBlock files count b) (h : a.place = b.place) : a = b := by
  obtain ⟨hfile, hline⟩ := Prod.mk.inj h
  obtain ⟨source, before, block, after, hsource, hlines, hblock, haline, hatext⟩ := ha
  obtain ⟨source', before', block', after', hsource', hlines', hblock', hbline, hbtext⟩ := hb
  have hsame : source = source' := by
    have hget := Entries.get?_eq_some_of_mem hnames hsource
    rw [hfile, Entries.get?_eq_some_of_mem hnames hsource'] at hget
    exact (Option.some.inj hget).symm
  rw [← hsame, hlines, List.append_assoc, List.append_assoc] at hlines'
  obtain ⟨-, hrest⟩ := List.append_inj hlines' (by omega)
  obtain ⟨rfl, -⟩ := List.append_inj hrest (by omega)
  cases a
  cases b
  simp_all

end

/-! ## Blocks put to those with their digest -/

section

variable {ws : List Window} {digest : Text} {w : Window}

/-- The blocks with a digest, as they come. -/
def withDigest (digest : Text) (ws : List Window) : List Window :=
  ws.filter fun w => sourceDigest w.text = digest

theorem mem_withDigest_iff : w ∈ withDigest digest ws ↔ w ∈ ws ∧ sourceDigest w.text = digest := by
  rw [withDigest, List.mem_filter, decide_eq_true_eq]

theorem mem_foldl_group_iff {g : Text × List Window} :
    g ∈ ws.foldl group [] ↔ g.2 = withDigest g.1 ws ∧ g.2 ≠ [] :=
  Entries.mem_foldl_gather_iff

end

/-! ## Groups and their first blocks -/

/-- The first of the blocks that are alike in some respect. -/
def IsFirst (files : Entries Text) (count : Int) (key : Text → Text) (a : Window) : Prop :=
  IsBlock files count a
    ∧ ∀ w, IsBlock files count w → key w.text = key a.text → w = a ∨ Precedes files a w

/-- A group has all blocks that are alike in some respect, in order, and starts with `a`. -/
structure Duplicate.Gathers (files : Entries Text) (count : Int) (key : Text → Text)
    (d : Duplicate) (a : Window) : Prop where
  head?_windows : d.windows.head? = some a
  mem_windows : ∀ w, w ∈ d.windows ↔ IsBlock files count w ∧ key w.text = key a.text
  pairwise_windows : d.windows.Pairwise (Precedes files)

section

variable {files : Entries Text} {count : Int} {key : Text → Text} {d : Duplicate} {a b : Window}

theorem Duplicate.text_eq (h : d.windows.head? = some a) : d.text = a.text := by
  rw [Duplicate.text, h]
  rfl

namespace Duplicate.Gathers

theorem mem (h : d.Gathers files count key a) : a ∈ d.windows :=
  List.mem_of_mem_head? h.head?_windows

theorem nodup_places (h : d.Gathers files count key a) : (d.windows.map Window.place).Nodup :=
  List.pairwise_map.mpr (h.pairwise_windows.imp Precedes.place_ne)

theorem exists_other (h : d.Gathers files count key a) (hlength : 1 < d.windows.length) :
    ∃ b, IsBlock files count b ∧ b ≠ a ∧ key b.text = key a.text := by
  have hfirst := h.head?_windows
  have horder := h.pairwise_windows
  have hall := h.mem_windows
  cases hwindows : d.windows with
  | nil => simp [hwindows] at hlength
  | cons x rest =>
    cases rest with
    | nil => simp [hwindows] at hlength
    | cons y rest =>
      rw [hwindows] at hfirst horder hall
      obtain rfl := Option.some.inj hfirst
      have hprecedes := (List.pairwise_cons.mp horder).1 y List.mem_cons_self
      obtain ⟨hy, hkey⟩ := (hall y).mp (List.mem_cons_of_mem _ List.mem_cons_self)
      exact ⟨y, hy, fun heq => hprecedes.place_ne (heq ▸ rfl), hkey⟩

theorem isBlock (h : d.Gathers files count key a) : IsBlock files count a :=
  ((h.mem_windows a).mp h.mem).1

end Duplicate.Gathers

theorem isFull_eq_true_iff {text : Text} :
    isFull count text = true
      ↔ Text.allBlank text = false ∧ count ≤ (Text.lines (Text.strip text)).length := by
  unfold isFull
  extract_lets core
  have hblank : core.isEmpty = Text.allBlank text := by
    rw [Bool.eq_iff_iff, List.isEmpty_iff]
    exact Text.strip_eq_nil_iff text
  rw [hblank, Bool.and_eq_true, Bool.not_eq_true', decide_eq_true_eq]

theorem mem_duplicates_iff :
    d ∈ duplicates files count ↔ d.lines = count
      ∧ d.windows = withDigest d.digest (scan files count) ∧ 1 < d.windows.length
      ∧ isFull count d.text = true := by
  unfold duplicates
  extract_lets all found
  rw [List.mem_filter, Bool.and_eq_true, decide_eq_true_eq]
  refine ⟨fun ⟨hd, hlength, hfull⟩ => ?_, fun ⟨hlines, hwindows, hlength, hfull⟩ => ?_⟩
  · obtain ⟨g, hg, rfl⟩ := List.mem_map.mp hd
    exact ⟨rfl, (mem_foldl_group_iff.mp hg).1, hlength, hfull⟩
  · refine ⟨List.mem_map.mpr ⟨(d.digest, d.windows), ?_, by rw [← hlines]⟩, hlength, hfull⟩
    exact mem_foldl_group_iff.mpr ⟨hwindows, List.length_pos_iff.mp (Nat.zero_lt_of_lt hlength)⟩

theorem pairwise_duplicates (hnames : files.names.Nodup) (count : Int) :
    (duplicates files count).Pairwise fun d e =>
      ∀ a ∈ d.windows.head?, ∀ b ∈ e.windows.head?, Precedes files a b := by
  unfold duplicates
  extract_lets all found
  refine (List.pairwise_map.mpr ?_).filter _
  exact Entries.pairwise_foldl_gather (pairwise_scan hnames count)

/-- The blocks with a digest are a group of their own, which starts with the first of them. -/
theorem gathers_withDigest (hnames : files.names.Nodup) (hcount : 0 ≤ count) {digest : Text}
    (hwindows : d.windows = withDigest digest (scan files count)) (hne : d.windows ≠ []) :
    ∃ a, IsFirst files count sourceDigest a ∧ d.Gathers files count sourceDigest a
      ∧ sourceDigest a.text = digest := by
  have hmem (w : Window) :
      w ∈ d.windows ↔ IsBlock files count w ∧ sourceDigest w.text = digest := by
    rw [hwindows, mem_withDigest_iff, mem_scan_iff hcount]
  have horder : d.windows.Pairwise (Precedes files) := by
    rw [hwindows]
    exact (pairwise_scan hnames count).filter _
  obtain ⟨a, rest, hrest⟩ := List.exists_cons_of_ne_nil hne
  obtain ⟨ha, hdigest⟩ := (hmem a).mp (hrest ▸ List.mem_cons_self)
  refine ⟨a, ⟨ha, fun w hw halike => ?_⟩, ⟨by rw [hrest]; rfl, fun w => ?_, horder⟩, hdigest⟩
  · have hin := (hmem w).mpr ⟨hw, halike.trans hdigest⟩
    rw [hrest] at hin horder
    exact (List.mem_cons.mp hin).imp_right ((List.pairwise_cons.mp horder).1 w)
  · rw [hmem, hdigest]

theorem gathers_of_mem_duplicates (hnames : files.names.Nodup) (hcount : 0 ≤ count)
    (hd : d ∈ duplicates files count) :
    ∃ a, IsFirst files count sourceDigest a ∧ d.Gathers files count sourceDigest a := by
  obtain ⟨-, hwindows, hlength, -⟩ := mem_duplicates_iff.mp hd
  have hne : d.windows ≠ [] := List.length_pos_iff.mp (Nat.zero_lt_of_lt hlength)
  obtain ⟨a, hfirst, hgathers, -⟩ := gathers_withDigest hnames hcount hwindows hne
  exact ⟨a, hfirst, hgathers⟩

theorem IsFirst.eq (ha : IsFirst files count key a) (hb : IsFirst files count key b)
    (h : key a.text = key b.text) : a = b := by
  rcases ha.2 b hb.1 h.symm with heq | hab
  · exact heq.symm
  · exact (hb.2 a ha.1 h).resolve_right hab.asymm

/-- There is a group for a block if it is the first with its digest, comes again and is full. -/
theorem exists_gathers_iff (hnames : files.names.Nodup) (hcount : 0 ≤ count) :
    (∃ d ∈ duplicates files count, d.Gathers files count sourceDigest a)
      ↔ IsFirst files count sourceDigest a
        ∧ (∃ b, IsBlock files count b ∧ b ≠ a ∧ sourceDigest b.text = sourceDigest a.text)
        ∧ isFull count a.text = true := by
  constructor
  · rintro ⟨d, hd, hgathers⟩
    obtain ⟨-, -, hlength, hfull⟩ := mem_duplicates_iff.mp hd
    obtain ⟨a', hfirst, hgathers'⟩ := gathers_of_mem_duplicates hnames hcount hd
    obtain rfl := Option.some.inj (hgathers.head?_windows.symm.trans hgathers'.head?_windows)
    refine ⟨hfirst, hgathers.exists_other hlength, ?_⟩
    rw [Duplicate.text_eq hgathers.head?_windows] at hfull
    exact hfull
  · rintro ⟨hfirst, ⟨b, hb, hne, halike⟩, hfull⟩
    -- The digest gets a name, since its computation has no part in what follows.
    obtain ⟨digest, hdigest⟩ : ∃ digest, sourceDigest a.text = digest := ⟨_, rfl⟩
    let d : Duplicate := ⟨digest, withDigest digest (scan files count), count⟩
    have hmem {w : Window} (hw : IsBlock files count w) (halike : sourceDigest w.text = digest) :
        w ∈ d.windows := mem_withDigest_iff.mpr ⟨(mem_scan_iff hcount).mpr hw, halike⟩
    have ha := hmem hfirst.1 hdigest
    obtain ⟨a', hfirst', hgathers, halike'⟩ :=
      gathers_withDigest (d := d) hnames hcount rfl (List.ne_nil_of_mem ha)
    obtain rfl := hfirst'.eq hfirst (halike'.trans hdigest.symm)
    refine ⟨d, mem_duplicates_iff.mpr ⟨rfl, rfl, ?_, ?_⟩, hgathers⟩
    · by_contra hlength
      have hone : d.windows.length = 1 := by
        have := List.length_pos_of_mem ha
        omega
      obtain ⟨w, hw⟩ := List.length_eq_one_iff.mp hone
      have hbw := hmem hb (halike.trans hdigest)
      rw [hw] at ha hbw
      exact hne ((List.mem_singleton.mp hbw).trans (List.mem_singleton.mp ha).symm)
    · rw [Duplicate.text_eq hgathers.head?_windows]
      exact hfull

/-! ## Groups of normal forms -/

/-- The blocks are alike in one respect just if they are in another. -/
def SameKinds (files : Entries Text) (count : Int) (key key' : Text → Text) : Prop :=
  ∀ v w, IsBlock files count v → IsBlock files count w →
    (key v.text = key w.text ↔ key' v.text = key' w.text)

theorem SameKinds.isFirst_iff {key' : Text → Text} (h : SameKinds files count key key') :
    IsFirst files count key a ↔ IsFirst files count key' a := by
  unfold IsFirst
  refine and_congr_right fun ha => forall_congr' fun w => imp_congr_right fun hw => ?_
  rw [h w a hw ha]

theorem SameKinds.gathers_iff {key' : Text → Text} (h : SameKinds files count key key') :
    d.Gathers files count key a ↔ d.Gathers files count key' a := by
  have hmem (ha : IsBlock files count a) (w : Window) :
      IsBlock files count w ∧ key w.text = key a.text
        ↔ IsBlock files count w ∧ key' w.text = key' a.text :=
    and_congr_right fun hw => h w a hw ha
  constructor
  · exact fun hg => ⟨hg.1, fun w => (hg.2 w).trans (hmem hg.isBlock w), hg.3⟩
  · exact fun hg => ⟨hg.1, fun w => (hg.2 w).trans (hmem hg.isBlock w).symm, hg.3⟩

/-- Where no two normal forms of blocks have one digest, a block is at the head of a group just if
it is the first with its normal form, comes again, is not blank and has all its lines without the
blanks at its ends. Each group has all blocks with the normal form of its first, in the order of the
scan and each place once. The groups come in the order of their first blocks, and no place is in two
of them. -/
theorem duplicates_gather (hnames : files.names.Nodup) (hcount : 1 ≤ count)
    (hfree : ∀ v w, IsBlock files count v → IsBlock files count w →
      ¬ Collide (normalForm v.text) (normalForm w.text)) :
    (∀ a, (∃ d ∈ duplicates files count, d.Gathers files count normalForm a)
        ↔ IsFirst files count normalForm a
          ∧ (∃ b, IsBlock files count b ∧ b ≠ a ∧ normalForm b.text = normalForm a.text)
          ∧ Text.allBlank a.text = false ∧ count ≤ (Text.lines (Text.strip a.text)).length)
      ∧ (∀ d ∈ duplicates files count, ∃ a, d.Gathers files count normalForm a
          ∧ d.text = a.text ∧ d.lines = count ∧ 2 ≤ d.windows.length
          ∧ (d.windows.map Window.place).Nodup)
      ∧ (duplicates files count).Pairwise fun d e =>
        (∀ a ∈ d.windows.head?, ∀ b ∈ e.windows.head?, Precedes files a b)
          ∧ ∀ v ∈ d.windows, ∀ w ∈ e.windows, v.place ≠ w.place := by
  have hkinds : SameKinds files count sourceDigest normalForm := fun v w hv hw =>
    textDigest_eq_iff (hfree v w hv hw)
  have hcount : 0 ≤ count := by omega
  refine ⟨fun a => ?_, fun d hd => ?_, ?_⟩
  · simp only [← hkinds.gathers_iff, ← hkinds.isFirst_iff, ← isFull_eq_true_iff]
    rw [exists_gathers_iff hnames hcount]
    refine and_congr_right fun hfirst => and_congr_left fun _ => exists_congr fun b => ?_
    exact and_congr_right fun hb => and_congr_right fun _ => hkinds b a hb hfirst.1
  · obtain ⟨a, -, hgathers⟩ := gathers_of_mem_duplicates hnames hcount hd
    obtain ⟨hlines, -, hlength, -⟩ := mem_duplicates_iff.mp hd
    exact ⟨a, hkinds.gathers_iff.mp hgathers, Duplicate.text_eq hgathers.head?_windows, hlines,
      hlength, hgathers.nodup_places⟩
  · refine (pairwise_duplicates hnames count).imp_of_mem fun {d e} hd he horder => ⟨horder, ?_⟩
    obtain ⟨a, hfirst, hgathers⟩ := gathers_of_mem_duplicates hnames hcount hd
    obtain ⟨b, hfirst', hgathers'⟩ := gathers_of_mem_duplicates hnames hcount he
    intro v hv w hw hplace
    -- A common block would make the two first blocks one, and one of them precedes the other.
    obtain ⟨hv, hva⟩ := (hgathers.mem_windows v).mp hv
    obtain ⟨hw, hwb⟩ := (hgathers'.mem_windows w).mp hw
    obtain rfl := eq_of_place_eq hnames hv hw hplace
    obtain rfl := hfirst.eq hfirst' (hva.symm.trans hwb)
    have hprecedes := horder a hgathers.head?_windows a hgathers'.head?_windows
    exact hprecedes.asymm hprecedes

end

/-- Two lines that come again in the same file and the other way round in another. -/
def echoing : Entries Text :=
  [("a.py", "p()\nq()\np()  # again\nq()"), ("b.py", "q()\np()")]

/-- The block at the top of the first file. -/
def echo : Window :=
  { file := "a.py", line := 1, text := "p()\nq()" }

theorem duplicates_gather_echoing :
    echoing.names.Nodup ∧ IsFirst echoing 2 normalForm echo
      ∧ (∃ d ∈ duplicates echoing 2, d.Gathers echoing 2 normalForm echo)
      ∧ (duplicates echoing 2).map (fun d => d.windows.map Window.place)
        = [[("a.py".toList, 1), ("a.py".toList, 3)], [("a.py".toList, 2), ("b.py".toList, 1)]] := by
  have hnames : echoing.names.Nodup := by decide +kernel
  have hall {p : Window → Bool} (h : (scan echoing 2).all p = true) (w : Window)
      (hw : IsBlock echoing 2 w) : p w = true :=
    List.all_eq_true.mp h w ((mem_scan_iff (by decide)).mpr hw)
  have hblock {w : Window} (h : (scan echoing 2).contains w = true) : IsBlock echoing 2 w :=
    (mem_scan_iff (by decide)).mp (List.contains_iff_mem.mp h)
  have hfree (v w : Window) (hv : IsBlock echoing 2 v) (hw : IsBlock echoing 2 w) :
      ¬ Collide (normalForm v.text) (normalForm w.text) := by
    have hdigests : ((scan echoing 2).all fun v => (scan echoing 2).all fun w =>
        normalForm v.text = normalForm w.text
          || Digest.sha256 (normalForm v.text).utf8 ≠ Digest.sha256 (normalForm w.text).utf8)
        = true := by decide +kernel
    have hpair := hall (hall hdigests v hv) w hw
    rw [Bool.or_eq_true, decide_eq_true_eq, decide_eq_true_eq] at hpair
    exact fun hcollide => hpair.elim hcollide.1 fun hne => hne hcollide.2
  have hfirst : IsFirst echoing 2 normalForm echo := by
    refine ⟨hblock (by decide +kernel), fun w hw halike => ?_⟩
    have horder : ((scan echoing 2).all fun w => normalForm w.text ≠ normalForm echo.text
        || (w = echo || Precedes echoing echo w)) = true := by decide +kernel
    have hw := hall horder w hw
    rw [Bool.or_eq_true, Bool.or_eq_true, decide_eq_true_eq, decide_eq_true_eq,
      decide_eq_true_eq] at hw
    exact hw.resolve_left fun hne => hne halike
  refine ⟨hnames, hfirst, ?_, by decide +kernel⟩
  refine ((duplicates_gather hnames (by decide) hfree).1 echo).mpr ⟨hfirst, ?_, by decide +kernel,
    by decide +kernel⟩
  exact ⟨{ file := "a.py", line := 3, text := "p()  # again\nq()" }, hblock (by decide +kernel),
    by decide +kernel, by decide +kernel⟩

end CodeReview.Likeness
