import CodeReview.Files.Inspect
import Mathlib.Tactic.Common

/-!
# Texts in UTF-8

Every text comes back from its bytes. The first bytes of a text need not be a text of their own,
since the cut may fall inside a character, and then the first byte after the cut is one that only
goes on with a character. A file is told to be a text or not by a sample of its first bytes, so
that byte decides whether a long file of UTF-8 is told to be a text.
-/

namespace CodeReview

namespace Encoding

/-- A byte that goes on with a character, and neither is one nor starts one. -/
def IsInner (b : UInt8) : Prop :=
  0x80 ≤ b.toNat ∧ b.toNat < 0xC0

instance (b : UInt8) : Decidable (IsInner b) :=
  inferInstanceAs (Decidable (_ ∧ _))

/-- The range of the next byte has nothing but inner bytes. -/
def Lead.AsksInner (l : Lead) : Prop :=
  0x80 ≤ l.low ∧ l.high < 0xC0

theorem lead?_asksInner {start : Nat} {b : UInt8} {l : Lead} (h : lead? start b = some l) :
    0xC0 ≤ b.toNat ∧ l.AsksInner := by
  simp only [lead?, Bool.and_eq_true, decide_eq_true_eq] at h
  unfold Lead.AsksInner
  split_ifs at h <;> cases h <;> dsimp only <;> omega

/-- What one byte does: it is refused whatever comes after it, or it leads on. Just an inner byte
leads on in the middle of a character. -/
theorem decodeUtf8From_cons (pos : Nat) {state : Option Lead} (hstate : ∀ l ∈ state, l.AsksInner)
    (b : UInt8) :
    (∃ fault, ∀ bs, decodeUtf8From pos state (b :: bs) = .error fault)
      ∨ (IsInner b ↔ state.isSome = true)
        ∧ ∃ (next : Option Lead) (add : Text → Text), (∀ l ∈ next, l.AsksInner)
          ∧ ∀ bs, decodeUtf8From pos state (b :: bs)
            = add <$> decodeUtf8From (pos + 1) next bs := by
  cases state with
  | none =>
    by_cases hascii : b < 0x80
    · have hlt : b.toNat < 0x80 := UInt8.lt_iff_toNat_lt.mp hascii
      have houter : ¬ IsInner b := fun h => by have := h.1; omega
      refine .inr ⟨by simp [houter], none, (Char.ofNat b.toNat :: ·), by simp, fun bs => ?_⟩
      rw [decodeUtf8From, if_pos hascii]
    · cases hlead : lead? pos b with
      | none =>
        refine .inl ⟨utf8Fault pos (pos + 1) b "invalid start byte", fun bs => ?_⟩
        rw [decodeUtf8From, if_neg hascii, hlead]
      | some l =>
        obtain ⟨hfirst, hasks⟩ := lead?_asksInner hlead
        have houter : ¬ IsInner b := fun h => by have := h.2; omega
        refine .inr ⟨by simp [houter], some l, id, by simpa using hasks, fun bs => ?_⟩
        rw [decodeUtf8From, if_neg hascii, hlead, id_map]
  | some l =>
    obtain ⟨hlow, hhigh⟩ := hstate l rfl
    by_cases hrange : (l.low ≤ b.toNat && b.toNat ≤ l.high) = true
    · have hinner : IsInner b := by
        simp only [Bool.and_eq_true, decide_eq_true_eq] at hrange
        exact ⟨by omega, by omega⟩
      by_cases howed : l.owed = 1
      · refine .inr ⟨by simp [hinner], none,
          (Char.ofNat (l.bits * 64 + (b.toNat - 0x80)) :: ·), by simp, fun bs => ?_⟩
        rw [decodeUtf8From, if_pos hrange, if_pos howed]
      · have hnext : Lead.AsksInner { l with
            owed := l.owed - 1, low := 0x80, high := 0xBF
            bits := l.bits * 64 + (b.toNat - 0x80) } := by
          show 0x80 ≤ 0x80 ∧ 0xBF < 0xC0
          omega
        refine .inr ⟨by simp [hinner], some _, id, by simpa using hnext, fun bs => ?_⟩
        rw [decodeUtf8From, if_pos hrange, if_neg howed, id_map]
    · refine .inl ⟨utf8Fault l.start pos l.byte "invalid continuation byte", fun bs => ?_⟩
      rw [decodeUtf8From, if_neg hrange]

theorem isOk_map {ε α β : Type} (f : α → β) (r : Except ε α) : (f <$> r).isOk = r.isOk := by
  cases r <;> rfl

/-- The part of decodable bytes before a cut is decodable just if no inner byte comes after it. -/
theorem isOk_left_iff {pos : Nat} {state : Option Lead} (hstate : ∀ l ∈ state, l.AsksInner)
    (xs ys : Bytes) (h : (decodeUtf8From pos state (xs ++ ys)).isOk = true) :
    (decodeUtf8From pos state xs).isOk = true ↔ ∀ b ∈ ys.head?, ¬ IsInner b := by
  -- along the bytes before the cut, with the state in which they are met
  induction xs generalizing pos state with
  | nil =>
    have hend : (decodeUtf8From pos state []).isOk = true ↔ ¬ state.isSome = true := by
      cases state <;> simp [decodeUtf8From, Except.isOk, Except.toBool]
    rw [hend]
    cases ys with
    | nil =>
      rw [List.append_nil, hend] at h
      simpa using h
    | cons y ys =>
      rcases decodeUtf8From_cons pos hstate y with ⟨fault, hfault⟩ | ⟨hinner, -⟩
      · rw [List.nil_append, hfault] at h
        cases h
      · simp [hinner]
  | cons x xs ih =>
    rcases decodeUtf8From_cons pos hstate x with ⟨fault, hfault⟩ | ⟨-, next, add, hnext, hadd⟩
    · rw [List.cons_append, hfault] at h
      cases h
    · rw [List.cons_append, hadd, isOk_map] at h
      rw [hadd, isOk_map]
      exact ih hnext h

/-! ## Characters as bytes -/

/-- So many bytes are owed, the bits up to now are those of a number, and an inner byte with the
next six bits is in the range. -/
structure Lead.Expects (l : Lead) (owed bits next : Nat) : Prop where
  owed : l.owed = owed
  bits : l.bits = bits
  low : l.low ≤ next + 128
  high : next + 128 ≤ l.high

theorem Lead.expects {start owed low high bits value next : Nat} {b : UInt8} (hbits : bits = value)
    (hlow : low ≤ next + 128) (hhigh : next + 128 ≤ high) :
    Lead.Expects ⟨start, b, owed, low, high, bits⟩ owed value next :=
  ⟨rfl, hbits, hlow, hhigh⟩

section

variable {pos n owed bits : Nat} {l : Lead}

theorem toNat_inner (hn : n < 64) : (UInt8.ofNat (n + 128)).toNat = n + 128 := by
  rw [UInt8.toNat_ofNat']
  exact Nat.mod_eq_of_lt (by omega)

theorem decodeUtf8From_last (h : l.Expects 1 bits n) (hn : n < 64) (bs : Bytes) :
    decodeUtf8From pos (some l) (UInt8.ofNat (n + 128) :: bs)
      = (Char.ofNat (bits * 64 + n) :: ·) <$> decodeUtf8From (pos + 1) none bs := by
  have hrange : (l.low ≤ n + 128 && n + 128 ≤ l.high) = true := by simp [h.low, h.high]
  rw [decodeUtf8From, toNat_inner hn, if_pos hrange, if_pos h.owed, Nat.add_sub_cancel, h.bits]

/-- Only the first inner byte has a range of its own: after it any six bits will do. -/
theorem decodeUtf8From_inner (pos : Nat) (h : l.Expects (owed + 2) bits n) (hn : n < 64)
    {m : Nat} (hm : m < 64) :
    ∃ l' : Lead, l'.Expects (owed + 1) (bits * 64 + n) m ∧ ∀ bs,
      decodeUtf8From pos (some l) (UInt8.ofNat (n + 128) :: bs)
        = decodeUtf8From (pos + 1) (some l') bs := by
  have hrange : (l.low ≤ n + 128 && n + 128 ≤ l.high) = true := by simp [h.low, h.high]
  have howed : l.owed ≠ 1 := by
    rw [h.owed]
    omega
  refine ⟨⟨l.start, l.byte, owed + 1, 0x80, 0xBF, l.bits * 64 + n⟩, ?_, fun bs => ?_⟩
  · exact Lead.expects (by rw [h.bits]) (by omega) (by omega)
  · rw [decodeUtf8From, toNat_inner hn, if_pos hrange, if_neg howed, Nat.add_sub_cancel, h.owed]
    rfl

theorem decodeUtf8From_lead {b : UInt8} (h : lead? pos b = some l) (bs : Bytes) :
    decodeUtf8From pos none (b :: bs) = decodeUtf8From (pos + 1) (some l) bs := by
  have hascii : ¬ b < 0x80 := by
    have hfirst := (lead?_asksInner h).1
    rw [UInt8.lt_iff_toNat_lt]
    show ¬ b.toNat < 128
    omega
  rw [decodeUtf8From, if_neg hascii, h]

end

/-- The first byte of a character of two bytes. -/
theorem lead?_two (pos : Nat) {v : Nat} (hlow : 0x80 ≤ v) (hhigh : v < 0x800) :
    ∃ l, lead? pos (UInt8.ofNat (v / 64 % 32 + 192)) = some l
      ∧ l.Expects 1 (v / 64) (v % 64) := by
  have hbyte : (UInt8.ofNat (v / 64 % 32 + 192)).toNat = v / 64 + 192 := by
    rw [UInt8.toNat_ofNat']
    omega
  simp only [lead?, hbyte, Bool.and_eq_true, decide_eq_true_eq]
  rw [if_pos (by omega)]
  exact ⟨_, rfl, Lead.expects (by omega) (by omega) (by omega)⟩

/-- The first byte of a character of three bytes: the second one is in its range, since the number
is neither small enough for two bytes nor half of a pair. -/
theorem lead?_three (pos : Nat) {v : Nat} (hlow : 0x800 ≤ v) (hhigh : v < 0x10000)
    (hpair : v < 0xD800 ∨ 0xDFFF < v) :
    ∃ l, lead? pos (UInt8.ofNat (v / 4096 % 16 + 224)) = some l
      ∧ l.Expects 2 (v / 4096) (v / 64 % 64) := by
  have hbyte : (UInt8.ofNat (v / 4096 % 16 + 224)).toNat = v / 4096 + 224 := by
    rw [UInt8.toNat_ofNat']
    omega
  simp only [lead?, hbyte, Bool.and_eq_true, decide_eq_true_eq]
  rw [if_neg (by omega)]
  by_cases hfirst : v / 4096 + 224 = 0xE0
  · rw [if_pos hfirst]
    exact ⟨_, rfl, Lead.expects (by omega) (by omega) (by omega)⟩
  by_cases hhalf : v / 4096 + 224 = 0xED
  · rw [if_neg hfirst, if_pos hhalf]
    exact ⟨_, rfl, Lead.expects (by omega) (by omega) (by omega)⟩
  · rw [if_neg hfirst, if_neg hhalf, if_pos (by omega)]
    exact ⟨_, rfl, Lead.expects (by omega) (by omega) (by omega)⟩

/-- The first byte of a character of four bytes. -/
theorem lead?_four (pos : Nat) {v : Nat} (hlow : 0x10000 ≤ v) (hhigh : v < 0x110000) :
    ∃ l, lead? pos (UInt8.ofNat (v / 262144 % 8 + 240)) = some l
      ∧ l.Expects 3 (v / 262144) (v / 4096 % 64) := by
  have hbyte : (UInt8.ofNat (v / 262144 % 8 + 240)).toNat = v / 262144 + 240 := by
    rw [UInt8.toNat_ofNat']
    omega
  simp only [lead?, hbyte, Bool.and_eq_true, decide_eq_true_eq]
  rw [if_neg (by omega), if_neg (by omega), if_neg (by omega), if_neg (by omega)]
  by_cases hfirst : v / 262144 + 240 = 0xF0
  · rw [if_pos hfirst]
    exact ⟨_, rfl, Lead.expects (by omega) (by omega) (by omega)⟩
  by_cases hmiddle : 0xF1 ≤ v / 262144 + 240 ∧ v / 262144 + 240 ≤ 0xF3
  · rw [if_neg hfirst, if_pos hmiddle]
    exact ⟨_, rfl, Lead.expects (by omega) (by omega) (by omega)⟩
  · rw [if_neg hfirst, if_neg hmiddle, if_pos (by omega)]
    exact ⟨_, rfl, Lead.expects (by omega) (by omega) (by omega)⟩

theorem toNat_not_surrogate (c : Char) : c.toNat < 0xD800 ∨ 0xDFFF < c.toNat ∧ c.toNat < 0x110000 :=
  c.valid

/-- The bytes of a character are read as that character. -/
theorem decodeUtf8From_char (pos : Nat) (c : Char) (bs : Bytes) :
    ∃ after, decodeUtf8From pos none (String.utf8EncodeChar c ++ bs)
      = (c :: ·) <$> decodeUtf8From after none bs := by
  have hvalid := toNat_not_surrogate c
  obtain ⟨v, hv⟩ : ∃ v, c.toNat = v := ⟨_, rfl⟩
  have hc : Char.ofNat v = c := by rw [← hv, Char.ofNat_toNat]
  rw [hv] at hvalid
  unfold String.utf8EncodeChar
  rw [show c.val.toNat = v from hv]
  dsimp only
  by_cases hone : v ≤ 127
  · have hbyte : (UInt8.ofNat v).toNat = v := by
      rw [UInt8.toNat_ofNat']
      omega
    have hascii : UInt8.ofNat v < 0x80 := by
      rw [UInt8.lt_iff_toNat_lt, hbyte]
      show v < 128
      omega
    rw [if_pos hone]
    refine ⟨pos + 1, ?_⟩
    rw [List.singleton_append, decodeUtf8From, if_pos hascii, hbyte, hc]
  by_cases htwo : v ≤ 2047
  · obtain ⟨l, hlead, hl⟩ := lead?_two pos (v := v) (by omega) (by omega)
    rw [if_neg hone, if_pos htwo]
    refine ⟨pos + 1 + 1, ?_⟩
    rw [List.cons_append, List.singleton_append, decodeUtf8From_lead hlead,
      decodeUtf8From_last hl (by omega), show v / 64 * 64 + v % 64 = v by omega, hc]
  by_cases hthree : v ≤ 65535
  · obtain ⟨l, hlead, hl⟩ := lead?_three pos (v := v) (by omega) (by omega) (by omega)
    obtain ⟨l', hl', hsecond⟩ :=
      decodeUtf8From_inner (pos + 1) hl (by omega) (m := v % 64) (by omega)
    rw [if_neg hone, if_neg htwo, if_pos hthree]
    refine ⟨pos + 1 + 1 + 1, ?_⟩
    rw [List.cons_append, List.cons_append, List.singleton_append, decodeUtf8From_lead hlead,
      hsecond, decodeUtf8From_last hl' (by omega),
      show (v / 4096 * 64 + v / 64 % 64) * 64 + v % 64 = v by omega, hc]
  · obtain ⟨l, hlead, hl⟩ := lead?_four pos (v := v) (by omega) (by omega)
    obtain ⟨l', hl', hsecond⟩ :=
      decodeUtf8From_inner (pos + 1) hl (by omega) (m := v / 64 % 64) (by omega)
    obtain ⟨l'', hl'', hthird⟩ :=
      decodeUtf8From_inner (pos + 1 + 1) hl' (by omega) (m := v % 64) (by omega)
    rw [if_neg hone, if_neg htwo, if_neg hthree]
    refine ⟨pos + 1 + 1 + 1 + 1, ?_⟩
    rw [List.cons_append, List.cons_append, List.cons_append, List.singleton_append,
      decodeUtf8From_lead hlead, hsecond, hthird, decodeUtf8From_last hl'' (by omega),
      show ((v / 262144 * 64 + v / 4096 % 64) * 64 + v / 64 % 64) * 64 + v % 64 = v by omega, hc]

theorem decodeUtf8From_utf8 (pos : Nat) (t : Text) : decodeUtf8From pos none t.utf8 = .ok t := by
  induction t generalizing pos with
  | nil => rfl
  | cons c t ih =>
    obtain ⟨after, hafter⟩ := decodeUtf8From_char pos c (Text.utf8 t)
    show decodeUtf8From pos none (String.utf8EncodeChar c ++ Text.utf8 t) = .ok (c :: t)
    rw [hafter, ih]
    rfl

/-- Every text comes back from its bytes in UTF-8. -/
theorem decodeUtf8_utf8 (t : Text) : decodeUtf8 t.utf8 = .ok t :=
  decodeUtf8From_utf8 0 t

/-- The first bytes of a text are a text just if the next byte is no inner one. -/
theorem isOk_decodeUtf8_take_iff (t : Text) (n : Nat) :
    (decodeUtf8 (t.utf8.take n)).isOk = true ↔ ∀ b ∈ t.utf8[n]?, ¬ IsInner b := by
  have hwhole : (decodeUtf8From 0 none (t.utf8.take n ++ t.utf8.drop n)).isOk = true := by
    rw [List.take_append_drop, decodeUtf8From_utf8]
    rfl
  rw [decodeUtf8, isOk_left_iff (by simp) _ _ hwhole, List.head?_drop]

end Encoding

namespace Disk

variable {d : Disk} {path : Text} {bs : Bytes}

theorem has_of_find (h : d.find (Path.ofText path) = .ok (.file bs)) :
    d.has (Path.ofText path) = true := by
  rw [has, h]
  rfl

theorem read_of_find (h : d.find (Path.ofText path) = .ok (.file bs)) :
    d.read (Path.ofText path) = .ok bs := by
  rw [read, readAs, h]

theorem isBinary_of_find (h : d.find (Path.ofText path) = .ok (.file bs)) :
    d.isBinary path
      = ((bs.take 8192).any (· = 0) || !(Encoding.decodeUtf8 (bs.take 8192)).isOk) := by
  simp only [isBinary, has_of_find h, read_of_find h, Bool.not_true, Bool.false_eq_true, if_false]

/-- A file is told to have an encoding just if it is told to be a text. -/
theorem exists_info?_of_find (h : d.find (Path.ofText path) = .ok (.file bs)) :
    ∃ i, d.info? path = some i ∧ i.isBinary = some (d.isBinary path)
      ∧ (i.encoding.isSome = true ↔ d.isBinary path = false) := by
  have hfile : d.isFile (Path.ofText path) = true := by rw [isFile, h]
  simp only [info?, has_of_find h, hfile, Bool.not_true, Bool.false_eq_true, if_false, if_true,
    Bool.true_and]
  refine ⟨_, rfl, rfl, ?_⟩
  cases d.isBinary path <;> simp

theorem isBinary_utf8_iff {t : Text} (h : d.find (Path.ofText path) = .ok (.file t.utf8))
    (hnul : 0 ∉ t.utf8) :
    d.isBinary path = false ↔ ∀ b ∈ t.utf8[8192]?, ¬ Encoding.IsInner b := by
  have hsample : (t.utf8.take 8192).any (· = 0) = false := by
    rw [List.any_eq_false]
    intro b hb hzero
    rw [of_decide_eq_true hzero] at hb
    exact hnul (List.mem_of_mem_take hb)
  rw [isBinary_of_find h, hsample, Bool.false_or, Bool.not_eq_false',
    Encoding.isOk_decodeUtf8_take_iff]

/-- A file in UTF-8 without NUL bytes is told to be a text, and to have an encoding, just if the
sample of 8192 bytes does not end inside a character, that is, if the next byte of the file is no
inner one. -/
theorem sampled_as_text_iff {t : Text} (h : d.find (Path.ofText path) = .ok (.file t.utf8))
    (hnul : 0 ∉ t.utf8) :
    (d.isBinary path = false ↔ ∀ b ∈ t.utf8[8192]?, ¬ Encoding.IsInner b)
      ∧ ∃ i, d.info? path = some i ∧ i.isBinary = some (d.isBinary path)
        ∧ (i.encoding.isSome = true ↔ ∀ b ∈ t.utf8[8192]?, ¬ Encoding.IsInner b) := by
  obtain ⟨i, hi, hbinary, hencoding⟩ := exists_info?_of_find h
  exact ⟨isBinary_utf8_iff h hnul, i, hi, hbinary, hencoding.trans (isBinary_utf8_iff h hnul)⟩

/-- A disk with one file in its root. -/
def withFile (name : Text) (bs : Bytes) : Disk where
  items := [([], .directory), ([name], .file bs)]
  home := []

/-- Letters, then a character of two bytes and another letter. -/
def lettersThenAccent (n : Nat) : Text :=
  List.replicate n 'a' ++ ['é', 'b']

theorem utf8_lettersThenAccent (n : Nat) :
    (lettersThenAccent n).utf8 = List.replicate n 97 ++ [0xC3, 0xA9, 98] := by
  have hletters : Text.utf8 (List.replicate n 'a') = List.replicate n 97 := by
    induction n with
    | zero => rfl
    | succ n ih => exact congrArg (97 :: ·) ih
  rw [lettersThenAccent, Text.utf8, List.flatMap_append]
  exact congrArg (· ++ _) hletters

theorem getElem?_lettersThenAccent (n k : Nat) :
    (lettersThenAccent n).utf8[n + k]? = ([0xC3, 0xA9, 98] : Bytes)[k]? := by
  rw [utf8_lettersThenAccent, List.getElem?_append_right (by simp), List.length_replicate,
    Nat.add_sub_cancel_left]

theorem zero_not_mem_lettersThenAccent (n : Nat) : 0 ∉ (lettersThenAccent n).utf8 := by
  rw [utf8_lettersThenAccent, List.mem_append, List.mem_replicate]
  rintro (⟨-, hletter⟩ | haccent)
  · exact absurd hletter (by decide)
  · exact absurd haccent (by decide)

/-- The letter after the accent is the first byte out of the sample. -/
theorem sampled_as_text_after_accent :
    0 ∉ (lettersThenAccent 8190).utf8
      ∧ (withFile "a.txt" (lettersThenAccent 8190).utf8).isBinary "a.txt" = false := by
  have hnul := zero_not_mem_lettersThenAccent 8190
  refine ⟨hnul, (sampled_as_text_iff rfl hnul).1.mpr ?_⟩
  rw [show (lettersThenAccent 8190).utf8[8192]? = some 98 from getElem?_lettersThenAccent 8190 2]
  rintro b ⟨⟩
  decide

/-- With one letter more the sample ends inside the accented character. -/
theorem isBinary_cut_accent :
    0 ∉ (lettersThenAccent 8191).utf8
      ∧ (withFile "a.txt" (lettersThenAccent 8191).utf8).isBinary "a.txt" = true
      ∧ ∃ i, (withFile "a.txt" (lettersThenAccent 8191).utf8).info? "a.txt" = some i
        ∧ i.encoding = none := by
  have hnul := zero_not_mem_lettersThenAccent 8191
  have hbinary : (withFile "a.txt" (lettersThenAccent 8191).utf8).isBinary "a.txt" = true := by
    rw [← Bool.not_eq_false, isBinary_utf8_iff rfl hnul,
      show (lettersThenAccent 8191).utf8[8192]? = some 0xA9 from getElem?_lettersThenAccent 8191 1]
    intro houter
    exact houter 0xA9 rfl (by decide)
  have hfind : (withFile "a.txt" (lettersThenAccent 8191).utf8).find (Path.ofText "a.txt")
      = .ok (.file (lettersThenAccent 8191).utf8) := rfl
  obtain ⟨i, hi, -, hencoding⟩ := exists_info?_of_find hfind
  refine ⟨hnul, hbinary, i, hi, ?_⟩
  rw [hbinary] at hencoding
  simpa using hencoding

end Disk

end CodeReview
