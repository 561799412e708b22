import CodeReview.Likeness.Similarity
import Mathlib.Algebra.Order.Group.Nat
import Mathlib.Tactic.Common

/-!
# What a fingerprint looks at

The chunks of a fingerprint start at the multiples of half their size, as long as a whole chunk
fits. So the last of them ends at the last multiple of that half, and what comes after it is in no
chunk: a change there is not seen. Nothing is left over just if the half divides the length.
-/

namespace CodeReview.Likeness

/-! ## Texts without blanks -/

theorem flatten_wordsAux (acc t : Text) :
    (Text.wordsAux acc t).flatten = acc.reverse ++ t.filter fun c => !Text.isBlank c := by
  induction t generalizing acc with
  | nil =>
    rw [Text.wordsAux]
    cases acc with
    | nil => rfl
    | cons c acc => simp
  | cons c t ih =>
    rw [Text.wordsAux]
    by_cases hc : Text.isBlank c = true
    · rw [if_pos hc, List.filter_cons_of_neg (by simp [hc])]
      cases acc with
      | nil => exact ih []
      | cons d acc =>
        rw [List.isEmpty_cons, if_neg Bool.false_ne_true, List.flatten_cons, ih]
        rfl
    · rw [if_neg hc, List.filter_cons_of_pos (by simpa using hc), ih, List.reverse_cons,
        List.append_assoc]
      rfl

theorem compact_eq_filter (source : Text) :
    compact source = (normalForm source).filter fun c => !Text.isBlank c :=
  flatten_wordsAux [] (normalForm source)

/-! ## Starts -/

section

variable {half length : Nat}

theorem mem_chunkStarts_iff (hhalf : 0 < half) {i : Nat} :
    i ∈ chunkStarts length (2 * half : Nat) ↔ half ∣ i ∧ i + 2 * half ≤ length := by
  unfold chunkStarts
  extract_lets step count
  have hstep : step = half := by
    show (Int.fdiv (2 * half : Nat) 2).toNat = half
    rw [Int.fdiv_eq_ediv_of_nonneg _ (by decide)]
    omega
  have hcount : count = length + 1 - 2 * half := by
    show ((length : Int) - (2 * half : Nat) + 1).toNat = _
    omega
  have hlt (k : Nat) :
      k < (length + 1 - 2 * half + half - 1) / half ↔ k * half + 2 * half ≤ length := by
    rw [Nat.lt_iff_add_one_le, Nat.le_div_iff_mul_le hhalf, Nat.add_mul, Nat.one_mul]
    omega
  rw [hstep, hcount, if_neg hhalf.ne', List.mem_map]
  simp only [List.mem_range, hlt]
  constructor
  · rintro ⟨k, hfits, rfl⟩
    exact ⟨Nat.dvd_mul_left half k, hfits⟩
  · rintro ⟨⟨k, rfl⟩, hfits⟩
    rw [Nat.mul_comm half k] at hfits ⊢
    exact ⟨k, hfits, rfl⟩

/-- The last multiple of the half in a text. -/
def reach (length half : Nat) : Nat :=
  length - length % half

theorem dvd_reach (length half : Nat) : half ∣ reach length half :=
  Nat.dvd_sub_mod length

theorem le_reach (hhalf : 0 < half) {m : Nat} (hm : half ∣ m) (hfits : m ≤ length) :
    m ≤ reach length half := by
  obtain ⟨k, rfl⟩ := hm
  have hk : k ≤ length / half := (Nat.le_div_iff_mul_le hhalf).mpr (Nat.mul_comm half k ▸ hfits)
  have hlast := Nat.div_add_mod length half
  have hmul := Nat.mul_le_mul_left half hk
  unfold reach
  omega

/-- The places in some chunk are those before the last multiple of the half. -/
theorem exists_chunk_iff (hhalf : 0 < half) (hlong : 2 * half ≤ length) {p : Nat} :
    (∃ i ∈ chunkStarts length (2 * half : Nat), i ≤ p ∧ p < i + 2 * half)
      ↔ p < reach length half := by
  simp only [mem_chunkStarts_iff hhalf]
  constructor
  · rintro ⟨i, ⟨hi, hfits⟩, -, hp⟩
    exact hp.trans_le (le_reach hhalf (Nat.dvd_add hi (Nat.dvd_mul_left half 2)) hfits)
  · intro hp
    by_cases hfirst : p < half
    · exact ⟨0, ⟨Nat.dvd_zero half, by omega⟩, by omega, by omega⟩
    -- The chunk whose second half has the place.
    have hrest := Nat.mod_lt p hhalf
    have hstart : half ∣ p - p % half := Nat.dvd_sub_mod p
    have hend : reach length half ≤ length := Nat.sub_le ..
    have hnext : half ≤ reach length half - (p - p % half) :=
      Nat.le_of_dvd (by omega) (Nat.dvd_sub (dvd_reach length half) hstart)
    exact ⟨p - p % half - half, ⟨Nat.dvd_sub hstart (Nat.dvd_refl half), by omega⟩, by omega,
      by omega⟩

end

/-! ## Fingerprints -/

/-- The first digits of the digest of a chunk. -/
def shortDigest (t : Text) : Text :=
  (Digest.hex (Digest.md5 t.utf8)).take 8

/-- The chunk that starts at a place. -/
def chunkFrom (source : Text) (size i : Nat) : Text :=
  ((compact source).drop i).take size

/-- Some chunk of a source has a place in it. -/
def InChunk (source : Text) (size p : Nat) : Prop :=
  ∃ i ∈ chunkStarts (compact source).length size, i ≤ p ∧ p < i + size

instance (source : Text) (size p : Nat) : Decidable (InChunk source size p) :=
  inferInstanceAs (Decidable (∃ i ∈ chunkStarts (compact source).length size, _))

section

variable {source : Text} {half : Nat}

theorem fingerprints_eq (hhalf : 0 < half) (source : Text) :
    fingerprints source (2 * half : Nat)
      = .ok ((chunkStarts (compact source).length (2 * half : Nat)).map fun i =>
        shortDigest (chunkFrom source (2 * half) i)) := by
  have hstep : Int.fdiv (2 * half : Nat) 2 ≠ 0 := by
    rw [Int.fdiv_eq_ediv_of_nonneg _ (by decide)]
    omega
  unfold fingerprints
  extract_lets c
  rw [if_neg hstep, Int.toNat_natCast]
  rfl

/-- A chunk ends before the rest that no chunk has. -/
theorem chunkFrom_congr (hhalf : 0 < half) {other : Text} {i : Nat}
    (hi : i ∈ chunkStarts (compact source).length (2 * half : Nat))
    (hsame : (compact other).take (reach (compact source).length half)
      = (compact source).take (reach (compact source).length half)) :
    chunkFrom other (2 * half) i = chunkFrom source (2 * half) i := by
  obtain ⟨hdvd, hfits⟩ := (mem_chunkStarts_iff hhalf).mp hi
  have hend := le_reach hhalf (Nat.dvd_add hdvd (Nat.dvd_mul_left half 2)) hfits
  have hcut (t : Text) : (t.drop i).take (2 * half)
      = ((t.take (reach (compact source).length half)).drop i).take (2 * half) := by
    rw [List.drop_take, List.take_take, Nat.min_eq_left (by omega)]
  unfold chunkFrom
  rw [hcut, hsame, ← hcut]

/-- A fingerprint has a short digest for each of the chunks, which start at multiples of half their
size in the source without comments and blanks. A place is in some chunk just if it comes before the
last multiple, so all places are just if the half divides the length. A source that differs only
after the last multiple has the same fingerprint. -/
theorem fingerprints_reach (hhalf : 0 < half) (hlong : 2 * half ≤ (compact source).length) :
    compact source = (normalForm source).filter (fun c => !Text.isBlank c)
      ∧ fingerprints source (2 * half : Nat)
        = .ok ((chunkStarts (compact source).length (2 * half : Nat)).map fun i =>
          shortDigest (chunkFrom source (2 * half) i))
      ∧ (∀ p, InChunk source (2 * half) p ↔ p < reach (compact source).length half)
      ∧ ((∀ p < (compact source).length, InChunk source (2 * half) p)
        ↔ half ∣ (compact source).length)
      ∧ ∀ other, (compact other).length = (compact source).length →
        (compact other).take (reach (compact source).length half)
          = (compact source).take (reach (compact source).length half) →
        fingerprints other (2 * half : Nat) = fingerprints source (2 * half : Nat) := by
  have hchunk (p : Nat) : InChunk source (2 * half) p ↔ p < reach (compact source).length half :=
    exists_chunk_iff hhalf hlong
  refine ⟨compact_eq_filter source, fingerprints_eq hhalf source, hchunk, ?_,
    fun other hlength hsame => ?_⟩
  · simp only [hchunk, reach, Nat.dvd_iff_mod_eq_zero]
    constructor
    · intro hall
      have hlast := hall ((compact source).length - 1) (by omega)
      omega
    · intro hmod p hp
      omega
  · rw [fingerprints_eq hhalf, fingerprints_eq hhalf, hlength]
    refine congrArg Except.ok (List.map_congr_left fun i hi => ?_)
    rw [chunkFrom_congr hhalf hi hsame]

end

theorem fingerprints_reach_six :
    (compact "ab = c  # d\n ef").length = 6
      ∧ ∀ p < (compact "ab = c  # d\n ef").length, InChunk "ab = c  # d\n ef" 4 p := by
  have hlength : (compact "ab = c  # d\n ef").length = 6 := by decide +kernel
  refine ⟨hlength, (fingerprints_reach (show 0 < 2 by decide) ?_).2.2.2.1.mpr ?_⟩
  · rw [hlength]
    decide
  · rw [hlength]
    decide

/-- The last of five characters is in no chunk of four. -/
theorem not_inChunk_five :
    (compact "abcde").length = 5 ∧ ¬ InChunk "abcde" 4 4 := by
  decide +kernel

end CodeReview.Likeness
