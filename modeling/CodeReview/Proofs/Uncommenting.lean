import CodeReview.Proofs.Tokens
import CodeReview.Source.Uncommented
import Mathlib.Data.List.DropRight

/-!
# Strings, as they are scanned and as comments are looked for

A string that is read as a token and ends on its line is passed over as a whole where a line is
searched for its comment: both end it at the same quote. A string that does not end on its line is
cut off there, which is where the two differ.
-/

namespace CodeReview

/-! ## Blanks -/

variable {c : Char}

namespace Text

theorem stripRight_append (s t : Text) :
    stripRight (s ++ t) = if stripRight t = [] then stripRight s else s ++ stripRight t := by
  unfold stripRight dropRightWhile
  rw [List.reverse_append, List.dropWhile_append]
  by_cases h : t.reverse.dropWhile isBlank = []
  · simp [h]
  · simp [h]

theorem stripRight_eq_nil {t : Text} (h : ∀ c ∈ t, isBlank c = true) : stripRight t = [] := by
  show t.rdropWhile isBlank = []
  exact List.rdropWhile_eq_nil_iff.mpr h

theorem stripRight_eq_self {t : Text} (hlast : t.getLast? = some c)
    (hc : isBlank c = false) : stripRight t = t := by
  obtain ⟨s, rfl⟩ := List.getLast?_eq_some_iff.mp hlast
  show (s ++ [c]).rdropWhile isBlank = _
  exact List.rdropWhile_concat_neg _ _ _ (by simp [hc])

/-- Only blanks after the last other character are cut off. -/
theorem stripRight_append_of_last {s : Text} (hlast : s.getLast? = some c)
    (hc : isBlank c = false) (t : Text) : stripRight (s ++ t) = s ++ stripRight t := by
  rw [stripRight_append]
  split
  · next h => rw [h, stripRight_eq_self hlast hc, List.append_nil]
  · rfl

/-- The code points of the blanks. -/
def blankRanges : Ranges :=
  [(9, 13), (28, 32), (0x85, 0x85), (0xA0, 0xA0), (0x1680, 0x1680), (0x2000, 0x200A),
    (0x2028, 0x2029), (0x202F, 0x202F), (0x205F, 0x205F), (0x3000, 0x3000)]

theorem has_blankRanges (h : isBlank c = true) : blankRanges.has c = true := by
  simp only [isBlank, Bool.or_eq_true, Bool.and_eq_true] at h
  obtain (h | h) | ⟨-, h⟩ := h
  · simp [blankRanges, Ranges.has, h.1, h.2]
  · simp [blankRanges, Ranges.has, h.1, h.2]
  · show (blankRanges.take 2 ++ blankRanges.drop 2).any _ = true
    rw [List.any_append, Bool.or_eq_true]
    exact .inr h

theorem toNat_of_isBlank (h : isBlank c = true) : c.toNat ≤ 32 ∨ 127 < c.toNat := by
  simp only [isBlank, Bool.or_eq_true, Bool.and_eq_true, decide_eq_true_eq] at h
  omega

/-- No character is in ranges of both kinds. -/
def Ranges.apart (rs bs : Ranges) : Bool :=
  rs.all fun r => bs.all fun b => Nat.blt r.2 b.1 || Nat.blt b.2 r.1

theorem isBlank_of_has {rs : Ranges} (hrs : rs.apart blankRanges = true)
    (h : rs.has c = true) : isBlank c = false := by
  rw [Bool.eq_false_iff]
  intro hblank
  have hb := has_blankRanges hblank
  simp only [Ranges.has, List.any_eq_true, Bool.and_eq_true, decide_eq_true_eq] at h hb
  simp only [Ranges.apart, List.all_eq_true, Bool.or_eq_true, Nat.blt_eq] at hrs
  obtain ⟨r, hr, hle⟩ := h
  obtain ⟨b, hb, hle'⟩ := hb
  have hapart := hrs r hr b hb
  omega

/-- A table is looked at by its digits, since they take long to be read from a string. -/
theorem isBlank_of_has_rows {start : Nat} {rows : Text}
    (hrows : (Ranges.ofLengths start ((lines rows).flatMap numbers)).apart blankRanges = true)
    (h : (Ranges.ofLengths start (numberRows (String.ofList rows))).has c = true) :
    isBlank c = false := by
  rw [numberRows, String.toList_ofList] at h
  exact isBlank_of_has hrows h

/-- No blank is a letter, a digit or an underscore. -/
theorem isBlank_of_isAlphanum (h : (c.isAlphanum || c = '_') = true) :
    isBlank c = false := by
  have hrange : Ranges.has [(48, 57), (65, 90), (95, 95), (97, 122)] c = true := by
    delta Char.isAlphanum Char.isAlpha Char.isUpper Char.isLower Char.isDigit at h
    simp only [Bool.or_eq_true, Bool.and_eq_true, decide_eq_true_eq, UInt32.le_iff_toNat_le,
      ge_iff_le] at h
    simp only [Ranges.has, List.any_cons, List.any_nil, Bool.or_false, Bool.or_eq_true,
      Bool.and_eq_true, decide_eq_true_eq, Char.toNat]
    obtain ((h | h) | h) | rfl := h
    · exact .inr (.inl h)
    · exact .inr (.inr (.inr h))
    · exact .inl h
    · decide
  exact isBlank_of_has (by decide) hrange

set_option maxRecDepth 10000 in
theorem isBlank_of_has_starts (h : identifierStartTable.has c = true) :
    isBlank c = false :=
  isBlank_of_has_rows (by decide +kernel) h

set_option maxRecDepth 10000 in
theorem isBlank_of_has_continues (h : identifierContinueTable.has c = true) :
    isBlank c = false :=
  isBlank_of_has_rows (by decide +kernel) h

theorem isBlank_of_isIdentifierStart (h : isIdentifierStart c = true) :
    isBlank c = false := by
  unfold isIdentifierStart at h
  split at h
  · refine isBlank_of_isAlphanum ?_
    simp only [Bool.or_eq_true, Char.isAlphanum] at h ⊢
    exact h.imp .inl id
  · exact isBlank_of_has_starts h

theorem isBlank_of_isIdentifierContinue (h : isIdentifierContinue c = true) :
    isBlank c = false := by
  unfold isIdentifierContinue at h
  split at h
  · exact isBlank_of_isAlphanum h
  · rcases Bool.or_eq_true_iff.mp h with hstart | hcontinue
    · exact isBlank_of_has_starts hstart
    · exact isBlank_of_has_continues hcontinue

end Text

namespace Source

open Token

/-! ## Strings -/

/-- The rest of a string through its closing quotes, after some of these have been seen, or after a
backslash. -/
inductive Closes (q : Char) (size : Nat) : Nat → Bool → Text → Prop where
  | last {seen : Nat} (h : seen + 1 = size) : Closes q size seen false [q]
  | quote {seen : Nat} {t : Text} (hseen : seen + 1 ≠ size) (h : Closes q size (seen + 1) false t) :
    Closes q size seen false (q :: t)
  | other {seen : Nat} {c : Char} {t : Text} (hc : c ≠ q) (hend : ¬ (size = 1 ∧ c = '\n'))
    (h : Closes q size 0 (c = '\\') t) : Closes q size seen false (c :: t)
  | escaped {seen : Nat} {c : Char} {t : Text} (h : Closes q size 0 false t) :
    Closes q size seen true (c :: t)

theorem closes_of_stringBody {q : Char} {size seen : Nat} {escaped : Bool}
    {acc text : Text} (h : (stringBody q size seen escaped acc text).2.2 = true) :
    ∃ t, text = t ++ (stringBody q size seen escaped acc text).2.1
      ∧ (stringBody q size seen escaped acc text).1 = t.reverse ++ acc
      ∧ Closes q size seen escaped t := by
  fun_induction stringBody q size seen escaped acc text with
  | case1 => cases h
  | case2 seen acc c cs ih =>
    obtain ⟨t, htext, hacc, ht⟩ := ih h
    exact ⟨c :: t, congrArg (c :: ·) htext, by simp [hacc], .escaped ht⟩
  | case3 => cases h
  | case4 seen escaped acc cs hescaped hseen _ =>
    obtain rfl := eq_false_of_ne_true hescaped
    exact ⟨[q], rfl, rfl, .last hseen⟩
  | case5 seen escaped acc cs hescaped hseen _ ih =>
    obtain rfl := eq_false_of_ne_true hescaped
    obtain ⟨t, htext, hacc, ht⟩ := ih h
    exact ⟨q :: t, congrArg (q :: ·) htext, by simp [hacc], .quote hseen ht⟩
  | case6 seen escaped acc c cs hescaped hend hc ih =>
    obtain rfl := eq_false_of_ne_true hescaped
    obtain ⟨t, htext, hacc, ht⟩ := ih h
    exact ⟨c :: t, congrArg (c :: ·) htext, by simp [hacc], .other hc (by simpa using hend) ht⟩

section

variable {q : Char} {size seen : Nat} {escaped : Bool} {t : Text}

/-- Where a string ends does not depend on what follows it. -/
theorem Closes.stringBody_eq (h : Closes q size seen escaped t) (hq : q ≠ '\n') (acc y : Text) :
    stringBody q size seen escaped acc (t ++ y) = (t.reverse ++ acc, y, true) := by
  induction h generalizing acc with
  | last h =>
    rw [List.singleton_append, stringBody]
    simp [hq, h]
  | quote hseen h ih =>
    rw [List.cons_append, stringBody]
    simp [hq, hseen, ih]
  | other hc hend h ih =>
    rw [List.cons_append, stringBody]
    simp [hc, hend, ih]
  | escaped h ih =>
    rw [List.cons_append, stringBody]
    simp [ih]

theorem Closes.ne_nil (h : Closes q size seen escaped t) : t ≠ [] := by
  cases h <;> exact List.cons_ne_nil _ _

/-- A string in single quotes is passed over up to its quote. -/
theorem Closes.uncommented_single (h : Closes q 1 seen escaped t) (hseen : seen = 0)
    (hq : q ≠ '\\') (y : Text) :
    uncommentedFrom (some ⟨q, false⟩) escaped.toNat (t ++ y) = t ++ uncommentedFrom none 0 y := by
  induction h with
  | last h => simp [uncommentedFrom, hq]
  | quote hne h ih => exact absurd (by rw [hseen]) hne
  | @other seen c t hc hend h ih =>
    have hrest := ih rfl
    by_cases hback : c = '\\'
    · have hne : (t ++ y).isEmpty = false := by simp [h.ne_nil]
      subst hback
      simp only [decide_true, Bool.toNat_true] at hrest
      simp [uncommentedFrom, hne, hrest]
    · simp only [hback, decide_false, Bool.toNat_false] at hrest
      simp [uncommentedFrom, hback, hc, hrest]
  | escaped h ih => simpa [uncommentedFrom] using ih rfl

/-- Fewer than three quotes end no string in triple quotes. -/
theorem uncommentedFrom_replicate (hq : q ≠ '\\') (hseen : seen ≤ 2) (hc : c ≠ q) (z : Text) :
    uncommentedFrom (some ⟨q, true⟩) 0 (List.replicate seen q ++ c :: z)
      = List.replicate seen q ++ uncommentedFrom (some ⟨q, true⟩) 0 (c :: z) := by
  obtain rfl | rfl | rfl : seen = 0 ∨ seen = 1 ∨ seen = 2 := by omega
  all_goals simp [List.replicate, uncommentedFrom, hq, hc]

/-- A string in triple quotes is passed over through its last quote. The quotes that have been seen
are looked at once more, since only three of them together end it. -/
theorem Closes.uncommented_triple (h : Closes q 3 seen escaped t) (hseen : seen ≤ 2)
    (hq : q ≠ '\\') (y : Text) :
    if escaped then
      uncommentedFrom (some ⟨q, true⟩) 1 (t ++ y) = t ++ uncommentedFrom none 0 y
    else
      uncommentedFrom (some ⟨q, true⟩) 0 (List.replicate seen q ++ (t ++ y))
        = List.replicate seen q ++ (t ++ uncommentedFrom none 0 y) := by
  induction h with
  | last h =>
    obtain rfl : _ = 2 := Nat.succ.inj h
    simp [List.replicate, uncommentedFrom, hq]
  | @quote seen t hne h ih =>
    have hrest := ih (by omega)
    simp only [Bool.false_eq_true, if_false, List.replicate_succ', List.append_assoc,
      List.singleton_append] at hrest ⊢
    exact hrest
  | @other seen c t hc hend h ih =>
    have hrest := ih (by omega)
    simp only [Bool.false_eq_true, if_false, List.cons_append]
    rw [uncommentedFrom_replicate hq hseen hc]
    by_cases hback : c = '\\'
    · have hne : (t ++ y).isEmpty = false := by simp [h.ne_nil]
      subst hback
      simp only [decide_true, if_true] at hrest
      simp [uncommentedFrom, hne, hrest]
    · simp only [hback, decide_false, Bool.false_eq_true, if_false, List.replicate_zero,
        List.nil_append] at hrest
      simp [uncommentedFrom, hback, hc, hrest]
  | escaped h ih =>
    have hrest := ih (by omega)
    simp only [Bool.false_eq_true, if_false, List.replicate_zero, List.nil_append] at hrest
    simp [uncommentedFrom, hrest]

end

/-! ## String literals -/

/-- A string with its quotes; the last component says whether they are tripled. -/
inductive Encloses (q : Char) : Text → Bool → Prop where
  | triple {t : Text} (h : Closes q 3 0 false t) : Encloses q (q :: q :: q :: t) true
  | empty : Encloses q [q, q] false
  | single {t : Text} (h : Closes q 1 0 false t) (hhead : t.head? ≠ some q) :
    Encloses q (q :: t) false

/-- A third quote would make an empty string the start of another one. -/
def Parted (q : Char) (t rest : Text) : Prop :=
  t = [q, q] → rest.head? ≠ some q

section

variable {q : Char} {t y : Text} {triple : Bool}

theorem Encloses.readString_eq (h : Encloses q t triple) (hq : q ≠ '\n') (hparted : Parted q t y) :
    readString q (t ++ y) = (t, y, true, triple) := by
  cases h with
  | @triple t h =>
    simp [readString, h.stringBody_eq hq]
  | empty =>
    have hy := hparted rfl
    cases y with
    | nil => simp [readString]
    | cons c y =>
      have hc : q ≠ c := fun hc => hy (by rw [hc]; rfl)
      simp [readString, hc]
  | @single t h hhead =>
    obtain ⟨c, t, rfl⟩ := List.exists_cons_of_ne_nil h.ne_nil
    have hc : q ≠ c := fun hc => hhead (by rw [hc]; rfl)
    have hbody := h.stringBody_eq hq [q] y
    rw [List.cons_append] at hbody
    rw [List.cons_append, List.cons_append]
    have hread : (t ++ y = [] ∨ ∃ d z, t ++ y = d :: z) := by
      cases t ++ y with
      | nil => exact .inl rfl
      | cons d z => exact .inr ⟨d, z, rfl⟩
    obtain hz | ⟨d, z, hz⟩ := hread
    · rw [hz] at hbody ⊢
      simp [readString, hc, hbody]
    · rw [hz] at hbody ⊢
      simp [readString, hc, hbody]

/-- A string that is read to its end. -/
theorem encloses_of_readString {rest : Text}
    (h : (readString q (q :: rest)).2.2.1 = true) :
    Encloses q (readString q (q :: rest)).1 (readString q (q :: rest)).2.2.2
      ∧ Parted q (readString q (q :: rest)).1 (readString q (q :: rest)).2.1 := by
  -- Behind one quote the string is not empty; two quotes are, unless a third one follows.
  have hone (hhead : rest.head? ≠ some q)
      (h : (stringBody q 1 0 false [q] rest).2.2 = true) :
      Encloses q (stringBody q 1 0 false [q] rest).1.reverse false
        ∧ Parted q (stringBody q 1 0 false [q] rest).1.reverse
          (stringBody q 1 0 false [q] rest).2.1 := by
    obtain ⟨t, htext, hacc, hclosed⟩ := closes_of_stringBody h
    have hfirst : t.head? = rest.head? := by
      obtain ⟨c, t, rfl⟩ := List.exists_cons_of_ne_nil hclosed.ne_nil
      rw [htext]
      rfl
    rw [hacc]
    simp only [List.reverse_append, List.reverse_reverse, List.reverse_cons, List.reverse_nil,
      List.nil_append, List.singleton_append]
    refine ⟨.single hclosed (hfirst ▸ hhead), fun heq => ?_⟩
    cases heq
    exact absurd hfirst.symm hhead
  have hthree {rest : Text} (h : (stringBody q 3 0 false [q, q, q] rest).2.2 = true) :
      Encloses q (stringBody q 3 0 false [q, q, q] rest).1.reverse true
        ∧ Parted q (stringBody q 3 0 false [q, q, q] rest).1.reverse
          (stringBody q 3 0 false [q, q, q] rest).2.1 := by
    obtain ⟨t, htext, hacc, hclosed⟩ := closes_of_stringBody h
    rw [hacc]
    simp only [List.reverse_append, List.reverse_reverse, List.reverse_cons, List.reverse_nil,
      List.nil_append, List.cons_append]
    exact ⟨.triple hclosed, fun heq => by cases heq⟩
  -- How many quotes open the string is decided by the two characters behind the first.
  match rest with
  | [] => exact hone (by simp) h
  | [c] =>
    by_cases hc : q = c
    · subst hc
      simp only [readString, if_true]
      exact ⟨.empty, fun _ => by simp⟩
    · simp only [readString, hc, if_false] at h ⊢
      exact hone (by simpa using Ne.symm hc) h
  | c :: d :: more =>
    by_cases hc : q = c
    · subst hc
      by_cases hd : q = d
      · subst hd
        simp only [readString, decide_true, Bool.and_self, if_true] at h ⊢
        exact hthree h
      · simp only [readString, hd, decide_true, decide_false, Bool.and_false, Bool.false_eq_true,
          if_false, if_true] at h ⊢
        exact ⟨.empty, fun _ => by simpa using Ne.symm hd⟩
    · simp only [readString, hc, decide_false, Bool.false_and, Bool.false_eq_true, if_false] at h ⊢
      exact hone (by simpa using Ne.symm hc) h

/-- Where comments are looked for, a string is passed over as a whole. -/
theorem Encloses.uncommented_eq (h : Encloses q t triple) (hq : q = '"' ∨ q = '\'')
    (hparted : Parted q t y) :
    uncommentedFrom none 0 (t ++ y) = t ++ uncommentedFrom none 0 y := by
  have hback : q ≠ '\\' := by
    obtain rfl | rfl := hq
    all_goals decide
  have hhash : q ≠ '#' := by
    obtain rfl | rfl := hq
    all_goals decide
  cases h with
  | @triple t h =>
    have hrest := h.uncommented_triple (by decide) hback y
    simp only [Bool.false_eq_true, if_false, List.replicate_zero, List.nil_append] at hrest
    simp [uncommentedFrom, hhash, hq, hrest]
  | empty =>
    have hy := hparted rfl
    have htake : y.take 1 ≠ [q] := by
      cases y with
      | nil => simp
      | cons c y => simpa using hy
    simp only [List.cons_append, List.nil_append]
    simp [uncommentedFrom, hhash, hq, htake, hback]
  | @single t h hhead =>
    have htake : (t ++ y).take 2 ≠ [q, q] := by
      obtain ⟨c, t, rfl⟩ := List.exists_cons_of_ne_nil h.ne_nil
      rw [List.cons_append, List.take_succ_cons]
      intro heq
      exact hhead (congrArg List.head? heq)
    have hrest := h.uncommented_single rfl hback y
    simp only [Bool.toNat_false] at hrest
    simp [uncommentedFrom, hhash, hq, htake, hrest]

end

end Source

end CodeReview
