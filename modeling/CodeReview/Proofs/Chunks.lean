import CodeReview.Proofs.Paths
import CodeReview.Text.Chunk
import Mathlib.Tactic.Ring

/-!
# Lines in chunks that overlap

Chunks are made in rounds. A round takes so many lines from where it stands, or those that are left,
and the next one goes back by the overlap. If the overlap is smaller than a chunk, every round gets
ahead and the lines that are left bound the rounds that are left. If it is not, a round never gets
past the place where it started: only a text that fits into one chunk is ever done.

Where the rounds get ahead, each chunk but the last is full, so a chunk starts with the overlap of
the one before it, and without these lines the chunks give the text back.
-/

namespace CodeReview.Text

/-! ## A text and its lines -/

theorem lines_ne_nil (t : Text) : lines t ≠ [] := by
  cases t with
  | nil => exact List.cons_ne_nil _ _
  | cons c t =>
    rw [lines]
    split
    · exact List.cons_ne_nil _ _
    · split <;> exact List.cons_ne_nil _ _

theorem lines_eq_splitOn (t : Text) : lines t = t.splitOn '\n' := by
  induction t with
  | nil => rfl
  | cons c t ih =>
    rw [List.splitOn_eq_splitOnP] at ih ⊢
    rw [lines, List.splitOnP_cons_eq_if_modifyHead, ← ih]
    by_cases hc : c = '\n'
    · rw [if_pos hc, if_pos (beq_iff_eq.mpr hc)]
    · rw [if_neg hc, if_neg fun h => hc (beq_iff_eq.mp h)]
      obtain ⟨l, ls, hlines⟩ := List.exists_cons_of_ne_nil (lines_ne_nil t)
      rw [hlines]
      rfl

theorem unlines_lines (t : Text) : unlines (lines t) = t := by
  rw [unlines, join_eq_intercalate, lines_eq_splitOn]
  exact List.intercalate_splitOn '\n'

theorem lines_unlines {ls : List Text} (hne : ls ≠ []) (h : ∀ l ∈ ls, '\n' ∉ l) :
    lines (unlines ls) = ls := by
  rw [unlines, join_eq_intercalate, lines_eq_splitOn]
  exact List.splitOn_intercalate '\n' h hne

theorem not_mem_of_mem_lines {t l : Text} (h : l ∈ lines t) : '\n' ∉ l := by
  rw [lines_eq_splitOn, ← split_eq_splitOn] at h
  exact not_mem_of_mem_splitAux List.not_mem_nil h

theorem clampIndex_natCast (length i : Nat) : clampIndex length i = min i length := by
  unfold clampIndex
  rw [if_neg (by omega)]
  rfl

theorem slice_natCast {α : Type} (l : List α) (i j : Nat) :
    slice l i j = (l.drop i).take (j - i) := by
  unfold slice
  rw [clampIndex_natCast, clampIndex_natCast, List.drop_take]
  by_cases hi : i ≤ l.length
  · rw [Nat.min_eq_left hi, List.take_eq_take_iff, List.length_drop]
    omega
  · rw [List.drop_eq_nil_of_le (by omega), List.drop_eq_nil_of_le (by omega), List.take_nil,
      List.take_nil]

/-! ## One round -/

/-- The chunk of the lines from `i` on, which may be counted from the end. -/
def chunkAt (ls : List Text) (most i : Int) : Chunk :=
  { line := i + 1, text := unlines (slice ls i (min (i + most) ls.length)) }

/-- A round is the last one just if no lines are left after its chunk. -/
theorem chunksFrom_succ (ls : List Text) (most overlap i : Int) (rounds : Nat) :
    chunksFrom ls most overlap (rounds + 1) i
      = if (ls.length : Int) ≤ i then some []
        else if (ls.length : Int) ≤ i + most then some [chunkAt ls most i]
        else (chunksFrom ls most overlap rounds (i + most - overlap)).map
          (chunkAt ls most i :: ·) := by
  rw [chunksFrom]
  by_cases hend : (ls.length : Int) ≤ i
  · rw [if_pos hend, if_pos hend]
  rw [if_neg hend, if_neg hend]
  extract_lets stop chunk next
  by_cases hlast : (ls.length : Int) ≤ i + most
  · rw [if_pos hlast, if_pos (by omega)]
    rfl
  · have hnext : next = i + most - overlap := by omega
    rw [if_neg hlast, if_neg (by omega), hnext]
    rfl

/-- More rounds than are needed make no difference. -/
theorem chunksFrom_mono {ls : List Text} {most overlap i : Int} {rounds more : Nat}
    {cs : List Chunk} (h : chunksFrom ls most overlap rounds i = some cs) (hle : rounds ≤ more) :
    chunksFrom ls most overlap more i = some cs := by
  induction rounds generalizing i more cs with
  | zero => cases h
  | succ rounds ih =>
    obtain ⟨more, rfl⟩ : ∃ k, more = k + 1 := ⟨more - 1, by omega⟩
    rw [chunksFrom_succ] at h ⊢
    split at h
    · next hend => rw [if_pos hend, h]
    · next hend =>
      rw [if_neg hend]
      split at h
      · next hlast => rw [if_pos hlast, h]
      · next hlast =>
        obtain ⟨later, hlater, rfl⟩ := Option.map_eq_some_iff.mp h
        rw [if_neg hlast, ih hlater (by omega)]
        rfl

/-- An overlap that is no smaller than a chunk never lets the rounds get ahead. -/
theorem chunksFrom_eq_none {ls : List Text} {most overlap : Int} (hmost : 0 ≤ most)
    (hoverlap : most ≤ overlap) (hlong : most < ls.length) {i : Int} (hi : i ≤ 0) (rounds : Nat) :
    chunksFrom ls most overlap rounds i = none := by
  -- the place stays at or before the start, which is the invariant of the rounds
  induction rounds generalizing i with
  | zero => rfl
  | succ rounds ih =>
    rw [chunksFrom_succ, if_neg (by omega), if_neg (by omega), ih (by omega)]
    rfl

/-! ## Rounds that get ahead -/

/-- The chunk that starts after `i` lines. -/
def window (ls : List Text) (most i : Nat) : Chunk :=
  { line := i + 1, text := unlines ((ls.drop i).take most) }

/-- Chunks of the lines from `i` on: one where these fit into it, else one that is full and those
from as many lines on as it does not share with the next. -/
inductive Cut (ls : List Text) (most overlap : Nat) : Nat → List Chunk → Prop
  | last {i : Nat} (hi : i < ls.length) (hfits : ls.length ≤ i + most) :
    Cut ls most overlap i [window ls most i]
  | more {i : Nat} {cs : List Chunk} (hfull : i + most < ls.length)
    (later : Cut ls most overlap (i + (most - overlap)) cs) :
    Cut ls most overlap i (window ls most i :: cs)

variable {ls : List Text} {most overlap i : Nat} {cs : List Chunk}

theorem chunkAt_eq_window (hi : i < ls.length) : chunkAt ls most i = window ls most i := by
  have hstop : min ((i : Int) + most) ls.length = (min (i + most) ls.length : Nat) := by omega
  have htake : (ls.drop i).take (min (i + most) ls.length - i) = (ls.drop i).take most := by
    rw [List.take_eq_take_iff, List.length_drop]
    omega
  unfold chunkAt window
  rw [hstop, slice_natCast, htake]

theorem exists_cut (hoverlap : overlap < most) {rounds : Nat} (hi : i < ls.length)
    (hrounds : ls.length ≤ i + rounds) :
    ∃ cs, chunksFrom ls most overlap rounds i = some cs ∧ Cut ls most overlap i cs := by
  induction rounds generalizing i with
  | zero => omega
  | succ rounds ih =>
    rw [chunksFrom_succ, if_neg (by omega), chunkAt_eq_window hi]
    by_cases hfits : ls.length ≤ i + most
    · rw [if_pos (by omega)]
      exact ⟨_, rfl, .last hi hfits⟩
    · have hnext : (i : Int) + most - overlap = ((i + (most - overlap) : Nat) : Int) := by omega
      obtain ⟨later, hlater, hcut⟩ := ih (i := i + (most - overlap)) (by omega) (by omega)
      rw [if_neg (by omega), hnext, hlater]
      exact ⟨_, rfl, .more (by omega) hcut⟩

namespace Cut

theorem lt_length (h : Cut ls most overlap i cs) : i < ls.length := by
  cases h with
  | last hi _ => exact hi
  | more hfull _ => omega

theorem window_of_get (h : Cut ls most overlap i cs) {k : Nat} {c : Chunk}
    (hk : cs[k]? = some c) : c = window ls most (i + k * (most - overlap)) := by
  induction h generalizing k with
  | last hi hfits =>
    cases k with
    | zero =>
      rw [Nat.zero_mul]
      exact (Option.some.inj hk).symm
    | succ k => cases hk
  | @more i cs hfull later ih =>
    cases k with
    | zero =>
      rw [Nat.zero_mul]
      exact (Option.some.inj hk).symm
    | succ k =>
      rw [ih hk, Nat.add_assoc, Nat.succ_mul, Nat.add_comm (k * _)]

/-- A chunk starts on a line of the text, and one that is not the first has lines beyond those that
it shares. -/
theorem start_lt (h : Cut ls most overlap i cs) (hoverlap : overlap < most) {k : Nat}
    (hk : k < cs.length) :
    i + k * (most - overlap) < ls.length
      ∧ (0 < k → i + k * (most - overlap) + overlap < ls.length) := by
  induction h generalizing k with
  | last hi hfits =>
    obtain rfl : k = 0 := Nat.lt_one_iff.mp hk
    omega
  | @more i cs hfull later ih =>
    cases k with
    | zero => omega
    | succ k =>
      have hstart := ih (Nat.lt_of_succ_lt_succ hk)
      have hplace : i + (k + 1) * (most - overlap)
          = i + (most - overlap) + k * (most - overlap) := by
        ring
      rw [hplace]
      refine ⟨hstart.1, fun _ => ?_⟩
      -- the first of the later chunks shares lines with this one, which is full
      by_cases hzero : k = 0
      · subst hzero
        omega
      · exact hstart.2 (Nat.pos_of_ne_zero hzero)

/-- The last chunk takes all lines that are left. -/
theorem length_le (h : Cut ls most overlap i cs) :
    ls.length ≤ i + (cs.length - 1) * (most - overlap) + most := by
  induction h with
  | last hi hfits =>
    rw [List.length_singleton, Nat.sub_self, Nat.zero_mul]
    omega
  | @more i cs hfull later ih =>
    have hpos : 0 < cs.length := by cases later <;> exact Nat.succ_pos _
    have hplace : i + (most - overlap) + (cs.length - 1) * (most - overlap)
        = i + cs.length * (most - overlap) := by
      obtain ⟨k, hk⟩ : ∃ k, cs.length = k + 1 := ⟨cs.length - 1, by omega⟩
      rw [hk, Nat.add_sub_cancel]
      ring
    rw [List.length_cons, Nat.add_sub_cancel, ← hplace]
    exact ih

end Cut

section

variable (hlines : ∀ l ∈ ls, '\n' ∉ l)
include hlines

theorem lines_window (hmost : 0 < most) (hi : i < ls.length) :
    lines (window ls most i).text = (ls.drop i).take most := by
  apply lines_unlines
  · intro hnil
    have hlength := congrArg List.length hnil
    rw [List.length_take, List.length_drop, List.length_nil] at hlength
    omega
  · intro l hl
    exact hlines l (List.mem_of_mem_drop (List.mem_of_mem_take hl))

/-- Without the lines that they share with the chunk before, the chunks are the lines again. -/
theorem Cut.rejoin (hoverlap : overlap < most) (h : Cut ls most overlap i cs) {first : Chunk}
    {later : List Chunk} (hcs : cs = first :: later) :
    lines first.text ++ later.flatMap (fun c => (lines c.text).drop overlap) = ls.drop i := by
  induction h generalizing first later with
  | @last i hi hfits =>
    cases hcs
    rw [lines_window hlines (by omega) hi, List.flatMap_nil, List.append_nil,
      List.take_of_length_le (by rw [List.length_drop]; omega)]
  | @more i cs hfull hlater ih =>
    cases hcs
    have hnext := hlater.lt_length
    obtain ⟨second, rest, hcs⟩ : ∃ second rest, cs = second :: rest := by
      cases hlater <;> exact ⟨_, _, rfl⟩
    have hsecond : second = window ls most (i + (most - overlap)) := by
      have hget := hlater.window_of_get (k := 0) (c := second) (by rw [hcs]; rfl)
      rwa [Nat.zero_mul, Nat.add_zero] at hget
    have hrest := ih hcs
    subst hcs
    -- the second chunk has all the lines that are dropped from it
    have hshared : overlap ≤ (lines second.text).length := by
      rw [hsecond, lines_window hlines (by omega) hnext, List.length_take, List.length_drop]
      omega
    rw [List.flatMap_cons, ← List.drop_append_of_le_length hshared, hrest, List.drop_drop,
      lines_window hlines (by omega) (by omega),
      show i + (most - overlap) + overlap = i + most by omega, ← List.drop_drop,
      List.take_append_drop]

end

/-! ## Whole texts -/

/-- The rounds come to an end just if the text fits into one chunk or the overlap is smaller than a
chunk, and the bound that is set to them cuts off none that would. -/
theorem chunks_end_iff (source : Text) {most overlap : Int} (hmost : 1 ≤ most)
    (hoverlap : 0 ≤ overlap) :
    ((∃ rounds cs, chunksFrom (lines source) most overlap rounds 0 = some cs)
        ↔ ((lines source).length : Int) ≤ most ∨ overlap < most)
      ∧ ∀ cs, chunks source most overlap = some cs
        ↔ ∃ rounds, chunksFrom (lines source) most overlap rounds 0 = some cs := by
  have hpos : 0 < (lines source).length := List.length_pos_iff.mpr (lines_ne_nil source)
  -- where the rounds end, the lines are enough rounds
  have hends : ((lines source).length : Int) ≤ most ∨ overlap < most →
      ∃ cs, chunksFrom (lines source) most overlap ((lines source).length + 1) 0 = some cs := by
    intro h
    by_cases hfits : ((lines source).length : Int) ≤ most
    · rw [chunksFrom_succ, if_neg (by omega), if_pos (by omega)]
      exact ⟨_, rfl⟩
    · obtain ⟨m, rfl⟩ := Int.eq_ofNat_of_zero_le (by omega : 0 ≤ most)
      obtain ⟨o, rfl⟩ := Int.eq_ofNat_of_zero_le hoverlap
      obtain ⟨cs, hcs, _⟩ := exists_cut (by omega : o < m) hpos
        (by omega : (lines source).length ≤ 0 + ((lines source).length + 1))
      exact ⟨cs, hcs⟩
  have hiff : (∃ rounds cs, chunksFrom (lines source) most overlap rounds 0 = some cs)
      ↔ ((lines source).length : Int) ≤ most ∨ overlap < most := by
    constructor
    · rintro ⟨rounds, cs, h⟩
      by_contra hnot
      rw [chunksFrom_eq_none (by omega) (by omega) (by omega) (Int.le_refl 0)] at h
      cases h
    · intro h
      exact ⟨_, hends h⟩
  refine ⟨hiff, fun cs => ⟨fun h => ⟨_, h⟩, ?_⟩⟩
  rintro ⟨rounds, h⟩
  obtain ⟨cs', hcs'⟩ := hends (hiff.mp ⟨rounds, cs, h⟩)
  -- two ends of the same rounds are the same
  have hmore := chunksFrom_mono h (Nat.le_max_left rounds ((lines source).length + 1))
  rw [chunksFrom_mono hcs' (Nat.le_max_right rounds ((lines source).length + 1))] at hmore
  exact hcs'.trans hmore

/-- Three lines in chunks of two that share two lines are never done, unlike four lines in chunks of
two that share one. -/
theorem chunks_end_iff_threeLines :
    ¬ (∃ rounds cs, chunksFrom (lines "a\nb\nc") 2 2 rounds 0 = some cs)
      ∧ chunks "a\nb\nc" 2 2 = none
      ∧ ∃ rounds cs, chunksFrom (lines "a\nb\nc\nd") 2 1 rounds 0 = some cs := by
  have hthree := chunks_end_iff "a\nb\nc" (by decide : (1 : Int) ≤ 2) (by decide : (0 : Int) ≤ 2)
  have hfour := chunks_end_iff "a\nb\nc\nd" (by decide : (1 : Int) ≤ 2) (by decide : (0 : Int) ≤ 1)
  refine ⟨fun h => ?_, by decide +kernel, hfour.1.mpr (.inr (by decide))⟩
  exact absurd (hthree.1.mp h) (by decide +kernel)

/-- If the overlap is smaller than a chunk, the chunks start at equal distances and hold the lines
from there on, as many as a chunk may have or as are left. The last one ends with the text, each
later one has lines beyond those that it shares with the one before, and without these they make up
the text. -/
theorem chunks_cover (source : Text) {most overlap : Int} (hoverlap : 0 ≤ overlap)
    (hmost : overlap < most) :
    ∃ first later, chunks source most overlap = some (first :: later)
      ∧ (∀ (k : Nat) (c : Chunk), (first :: later)[k]? = some c →
        c.line = 1 + k * (most - overlap)
          ∧ c.text = unlines (((lines source).drop (c.line - 1).toNat).take most.toNat)
          ∧ lines c.text = ((lines source).drop (c.line - 1).toNat).take most.toNat
          ∧ ((lines c.text).length : Int) ≤ most
          ∧ (0 < k → overlap < ((lines c.text).length : Int)))
      ∧ (∀ c, (first :: later).getLast? = some c →
        c.line - 1 + (lines c.text).length = (lines source).length)
      ∧ unlines (lines first.text ++ later.flatMap fun c => (lines c.text).drop overlap.toNat)
        = source := by
  obtain ⟨m, rfl⟩ := Int.eq_ofNat_of_zero_le (by omega : 0 ≤ most)
  obtain ⟨o, rfl⟩ := Int.eq_ofNat_of_zero_le hoverlap
  have hsmall : o < m := by omega
  have hlines : ∀ l ∈ lines source, '\n' ∉ l := fun l => not_mem_of_mem_lines
  obtain ⟨cs, hcs, hcut⟩ := exists_cut hsmall (List.length_pos_iff.mpr (lines_ne_nil source))
    (by omega : (lines source).length ≤ 0 + ((lines source).length + 1))
  obtain ⟨first, later, rfl⟩ : ∃ first later, cs = first :: later := by
    cases hcut <;> exact ⟨_, _, rfl⟩
  -- each chunk is the window at its place, and that starts within the text
  have hchunk (k : Nat) (c : Chunk) (hk : (first :: later)[k]? = some c) :
      c = window (lines source) m (k * (m - o)) ∧ k * (m - o) < (lines source).length
        ∧ (0 < k → k * (m - o) + o < (lines source).length) := by
    have hlt : k < (first :: later).length := (List.getElem?_eq_some_iff.mp hk).1
    have hwindow := hcut.window_of_get hk
    have hstart := hcut.start_lt hsmall hlt
    rw [Nat.zero_add] at hwindow hstart
    exact ⟨hwindow, hstart⟩
  have hcast (k : Nat) : ((k * (m - o) : Nat) : Int) = k * ((m : Int) - o) := by
    rw [Nat.cast_mul, Nat.cast_sub hsmall.le]
  refine ⟨first, later, hcs, fun k c hk => ?_, fun c hlast => ?_, ?_⟩
  · obtain ⟨rfl, hstart, hshared⟩ := hchunk k c hk
    have hline : (window (lines source) m (k * (m - o))).line
        = ((k * (m - o) : Nat) : Int) + 1 := rfl
    have hplace : ((window (lines source) m (k * (m - o))).line - 1).toNat = k * (m - o) := by
      rw [hline]
      omega
    have htext := lines_window hlines (by omega : 0 < m) hstart
    have hlength := congrArg List.length htext
    rw [List.length_take, List.length_drop] at hlength
    rw [hplace, Int.toNat_natCast]
    refine ⟨?_, rfl, htext, by omega, fun hk => ?_⟩
    · rw [hline, hcast, Int.add_comm]
    · have := hshared hk
      omega
  · rw [List.getLast?_eq_getElem?] at hlast
    obtain ⟨rfl, hstart, -⟩ := hchunk _ c hlast
    have hend := hcut.length_le
    have hlength := congrArg List.length (lines_window hlines (by omega : 0 < m) hstart)
    rw [List.length_take, List.length_drop] at hlength
    show ((_ : Int) + 1) - 1 + _ = _
    omega
  · rw [Int.toNat_natCast, hcut.rejoin hlines hsmall rfl, List.drop_zero, unlines_lines]

theorem chunks_cover_sixLines :
    chunks "a\nb\nc\nd\ne\nf" 3 1
        = some [⟨1, "a\nb\nc"⟩, ⟨3, "c\nd\ne"⟩, ⟨5, "e\nf"⟩]
      ∧ ∃ first later, chunks "a\nb\nc\nd\ne\nf" 3 1 = some (first :: later)
        ∧ unlines (lines first.text ++ later.flatMap fun c => (lines c.text).drop 1)
          = "a\nb\nc\nd\ne\nf" := by
  obtain ⟨first, later, h, -, -, hwhole⟩ :=
    chunks_cover "a\nb\nc\nd\ne\nf" (by decide : (0 : Int) ≤ 1) (by decide : (1 : Int) < 3)
  exact ⟨by decide +kernel, first, later, h, hwhole⟩

end CodeReview.Text
