import CodeReview.Proofs.Utf8
import Mathlib.Tactic.Ring

/-!
# Texts after a mark

A file may start with a mark, the character U+FEFF in the encoding of the file. The mark tells the
encoding, and the text after it is read in that encoding. Of the five encodings only UTF-8 has a way
of reading that leaves the mark out; in the four others the text that is read starts with it.
-/

namespace CodeReview

namespace Encoding

/-! ## Units of several bytes -/

/-- A number in some bytes, the lowest first. -/
def littleBytes : Nat → Nat → Bytes
  | 0, _ => []
  | size + 1, n => UInt8.ofNat (n % 256) :: littleBytes size (n / 256)

def unitBytes (size : Nat) (bigEndian : Bool) (n : Nat) : Bytes :=
  if bigEndian then (littleBytes size n).reverse else littleBytes size n

theorem length_littleBytes (size n : Nat) : (littleBytes size n).length = size := by
  induction size generalizing n with
  | zero => rfl
  | succ size ih => rw [littleBytes, List.length_cons, ih]

theorem length_unitBytes (size : Nat) (bigEndian : Bool) (n : Nat) :
    (unitBytes size bigEndian n).length = size := by
  unfold unitBytes
  split
  · rw [List.length_reverse, length_littleBytes]
  · rw [length_littleBytes]

theorem foldl_reverse_littleBytes {size n : Nat} (h : n < 256 ^ size) :
    (littleBytes size n).reverse.foldl (fun m b => m * 256 + b.toNat) 0 = n := by
  rw [List.foldl_reverse]
  induction size generalizing n with
  | zero =>
    rw [pow_zero] at h
    show 0 = n
    omega
  | succ size ih =>
    have hhigh : n / 256 < 256 ^ size := by
      rw [pow_succ] at h
      exact Nat.div_lt_of_lt_mul (by omega)
    have hlow : (UInt8.ofNat (n % 256)).toNat = n % 256 := by
      rw [UInt8.toNat_ofNat']
      omega
    rw [littleBytes, List.foldr_cons, ih hhigh, hlow]
    omega

/-- Numbers come back from their bytes in either order. -/
theorem units_flatMap_unitBytes {size : Nat} (hsize : 0 < size) (bigEndian : Bool) {us : List Nat}
    (h : ∀ u ∈ us, u < 256 ^ size) {fuel : Nat} (hfuel : us.length ≤ fuel) :
    units size bigEndian fuel (us.flatMap (unitBytes size bigEndian)) = some us := by
  induction us generalizing fuel with
  | nil => rw [List.flatMap_nil, units]
  | cons u us ih =>
    obtain ⟨hu, hus⟩ := List.forall_mem_cons.mp h
    have hlength := length_unitBytes size bigEndian u
    have hordered : (if bigEndian then unitBytes size bigEndian u
        else (unitBytes size bigEndian u).reverse) = (littleBytes size u).reverse := by
      cases bigEndian <;> simp [unitBytes]
    cases fuel with
    | zero => rw [List.length_cons] at hfuel; omega
    | succ fuel =>
      have hrest : units size bigEndian fuel _ = some us :=
        ih hus (by rw [List.length_cons] at hfuel; omega)
      rw [List.flatMap_cons, units]
      · rw [List.take_left' hlength, List.drop_left' hlength, if_neg (by omega), hordered]
        dsimp only
        rw [foldl_reverse_littleBytes hu, hrest]
        rfl
      · intro hnil
        have hzero := congrArg List.length hnil
        rw [List.length_append, hlength, List.length_nil] at hzero
        omega

theorem units_length_flatMap_unitBytes {size : Nat} (hsize : 0 < size) (bigEndian : Bool)
    {us : List Nat} (h : ∀ u ∈ us, u < 256 ^ size) :
    units size bigEndian (us.flatMap (unitBytes size bigEndian)).length
      (us.flatMap (unitBytes size bigEndian)) = some us := by
  refine units_flatMap_unitBytes hsize bigEndian h ?_
  -- each number takes at least one byte
  clear h
  induction us with
  | nil => exact Nat.le_refl 0
  | cons u us ih =>
    rw [List.flatMap_cons, List.length_append, length_unitBytes, List.length_cons]
    omega

/-- The units of a character in UTF-16: itself, or a pair above the numbers of two bytes. -/
def charUnits (c : Char) : List Nat :=
  if c.toNat < 0x10000 then [c.toNat]
  else [0xD800 + (c.toNat - 0x10000) / 1024, 0xDC00 + (c.toNat - 0x10000) % 1024]

theorem lt_of_mem_charUnits {c : Char} {u : Nat} (h : u ∈ charUnits c) : u < 256 ^ 2 := by
  have hvalid := toNat_not_surrogate c
  unfold charUnits at h
  split at h
  · rw [List.mem_singleton] at h
    omega
  · simp only [List.mem_cons, List.not_mem_nil, or_false] at h
    omega

/-- The units of a character are read as that character. -/
theorem fromUnits16_charUnits (c : Char) (us : List Nat) :
    fromUnits16 none (charUnits c ++ us) = (c :: ·) <$> fromUnits16 none us := by
  have hvalid := toNat_not_surrogate c
  obtain ⟨v, hv⟩ : ∃ v, c.toNat = v := ⟨_, rfl⟩
  have hc : Char.ofNat v = c := by rw [← hv, Char.ofNat_toNat]
  rw [charUnits, hv]
  rw [hv] at hvalid
  by_cases hsmall : v < 0x10000
  · have hhigh : isHigh v = false := by
      simp only [isHigh, Bool.and_eq_false_iff, decide_eq_false_iff_not]
      omega
    have hlow : isLow v = false := by
      simp only [isLow, Bool.and_eq_false_iff, decide_eq_false_iff_not]
      omega
    rw [if_pos hsmall, List.singleton_append, fromUnits16, hhigh, hlow, hc]
    rfl
  · obtain ⟨a, ha⟩ : ∃ a, 0xD800 + (v - 0x10000) / 1024 = a := ⟨_, rfl⟩
    obtain ⟨b, hb⟩ : ∃ b, 0xDC00 + (v - 0x10000) % 1024 = b := ⟨_, rfl⟩
    have hhigh : isHigh a = true := by
      simp only [isHigh, Bool.and_eq_true, decide_eq_true_eq]
      omega
    have hlow : isLow b = true := by
      simp only [isLow, Bool.and_eq_true, decide_eq_true_eq]
      omega
    have hjoined : 0x10000 + (a - 0xD800) * 1024 + (b - 0xDC00) = v := by omega
    rw [if_neg hsmall, ha, hb, List.cons_append, List.singleton_append, fromUnits16, if_pos hhigh,
      fromUnits16, if_pos hlow, hjoined, hc]

theorem fromUnits16_flatMap (t : Text) : fromUnits16 none (t.flatMap charUnits) = some t := by
  induction t with
  | nil => rw [List.flatMap_nil, fromUnits16]
  | cons c t ih =>
    rw [List.flatMap_cons, fromUnits16_charUnits, ih]
    rfl

theorem fromUnits32_map (t : Text) : fromUnits32 (t.map Char.toNat) = some t := by
  induction t with
  | nil => rfl
  | cons c t ih =>
    have hvalid := toNat_not_surrogate c
    have hunit : (c.toNat < 0x110000 && !isHigh c.toNat && !isLow c.toNat) = true := by
      simp only [isHigh, isLow, Bool.and_eq_true, Bool.not_eq_true', Bool.and_eq_false_iff,
        decide_eq_true_eq, decide_eq_false_iff_not]
      omega
    unfold fromUnits32 at ih ⊢
    rw [List.map_cons, List.mapM_cons, ih, if_pos hunit, Char.ofNat_toNat]
    rfl

/-! ## Marks -/

/-- The encodings that a mark tells. -/
inductive Mark where
  | utf8
  | utf16 (bigEndian : Bool)
  | utf32 (bigEndian : Bool)
  deriving DecidableEq

namespace Mark

def bytes : Mark → Bytes
  | utf8 => [0xEF, 0xBB, 0xBF]
  | utf16 false => [0xFF, 0xFE]
  | utf16 true => [0xFE, 0xFF]
  | utf32 false => [0xFF, 0xFE, 0, 0]
  | utf32 true => [0, 0, 0xFE, 0xFF]

def encode : Mark → Text → Bytes
  | utf8, t => t.utf8
  | utf16 bigEndian, t => (t.flatMap charUnits).flatMap (unitBytes 2 bigEndian)
  | utf32 bigEndian, t => (t.map Char.toNat).flatMap (unitBytes 4 bigEndian)

/-- The way of reading that the mark leads to. -/
def encoding : Mark → Encoding
  | utf8 => .utf8Marked
  | utf16 bigEndian => .utf16 (some bigEndian)
  | utf32 bigEndian => .utf32 (some bigEndian)

def name : Mark → Text
  | utf8 => "utf-8-sig"
  | utf16 false => "utf-16-le"
  | utf16 true => "utf-16-be"
  | utf32 false => "utf-32-le"
  | utf32 true => "utf-32-be"

/-- The character that all marks are. -/
def char : Char :=
  Char.ofNat 0xFEFF

/-- The text that is read after a mark. -/
def textAfter : Mark → Text → Text
  | utf8, t => t
  | _, t => char :: t

theorem named?_name (m : Mark) : named? m.name = some m.encoding := by
  rcases m with _ | (_ | _) | (_ | _) <;> decide +kernel

/-- A mark is its character in the encoding that it tells. -/
theorem bytes_append_encode (m : Mark) (t : Text) :
    m.bytes ++ m.encode t = m.encode (char :: t) := by
  rcases m with _ | (_ | _) | (_ | _)
  all_goals rfl

/-- The first two bytes of a text in UTF-16 are not both NUL, unless its first character is. -/
theorem exists_encode_cons {c : Char} (hc : c ≠ '\x00') (t : Text) :
    ∃ a b rest, (utf16 false).encode (c :: t) = a :: b :: rest ∧ ¬ (a = 0 ∧ b = 0) := by
  have hpos : c.toNat ≠ 0 := fun h => hc (Char.toNat_inj.mp h)
  obtain ⟨u, us, hunits, hu⟩ : ∃ u us, charUnits c = u :: us ∧ u ≠ 0 := by
    unfold charUnits
    split
    · exact ⟨_, _, rfl, hpos⟩
    · exact ⟨_, _, rfl, by omega⟩
  have hlt : u < 256 ^ 2 := lt_of_mem_charUnits (hunits ▸ List.mem_cons_self)
  refine ⟨UInt8.ofNat (u % 256), UInt8.ofNat (u / 256 % 256),
    (us ++ t.flatMap charUnits).flatMap (unitBytes 2 false), ?_, ?_⟩
  · rw [encode, List.flatMap_cons, hunits, List.cons_append, List.flatMap_cons]
    rfl
  · rintro ⟨ha, hb⟩
    have hlow := congrArg UInt8.toNat ha
    have hhigh := congrArg UInt8.toNat hb
    simp only [UInt8.toNat_ofNat', UInt8.toNat_zero] at hlow hhigh
    omega

/-- What follows a mark is not taken for the end of a longer one: the mark of UTF-32 in little order
is that of UTF-16 before a NUL character. -/
theorem markedEncoding?_marked (m : Mark) {t : Text} (hnul : '\x00' ∉ t) :
    Disk.markedEncoding? (m.bytes ++ m.encode t) = some m.name := by
  rcases m with _ | (_ | _) | (_ | _)
  · rfl
  · cases t with
    | nil => rfl
    | cons c t =>
      have hc : c ≠ '\x00' := fun h => hnul (h ▸ List.mem_cons_self)
      obtain ⟨a, b, rest, hencode, hzero⟩ := exists_encode_cons hc t
      have hlong :
          ¬ List.isPrefixOf [0xFF, 0xFE, 0, 0] (0xFF :: 0xFE :: a :: b :: rest) = true := by
        rw [List.isPrefixOf_iff_prefix]
        intro hpre
        simp only [List.cons_prefix_cons, true_and] at hpre
        exact hzero ⟨hpre.1.symm, hpre.2.1.symm⟩
      have hother : ¬ List.isPrefixOf [0xEF, 0xBB, 0xBF] (0xFF :: 0xFE :: a :: b :: rest) = true :=
        Bool.false_ne_true
      rw [hencode]
      show Disk.markedEncoding? (0xFF :: 0xFE :: a :: b :: rest) = _
      rw [Disk.markedEncoding?, if_neg hother, if_neg hlong]
      rfl
  · rfl
  · rfl
  · rfl

theorem fromUnits_encode_utf16 (bigEndian : Bool) (t : Text) :
    fromUnits 2 bigEndian ((utf16 bigEndian).encode t) = some t := by
  have hunits : ∀ u ∈ t.flatMap charUnits, u < 256 ^ 2 := by
    intro u hu
    obtain ⟨c, -, hc⟩ := List.mem_flatMap.mp hu
    exact lt_of_mem_charUnits hc
  rw [fromUnits, encode, units_length_flatMap_unitBytes (by omega) bigEndian hunits]
  exact fromUnits16_flatMap t

theorem fromUnits_encode_utf32 (bigEndian : Bool) (t : Text) :
    fromUnits 4 bigEndian ((utf32 bigEndian).encode t) = some t := by
  have hunits : ∀ u ∈ t.map Char.toNat, u < 256 ^ 4 := by
    intro u hu
    obtain ⟨c, -, rfl⟩ := List.mem_map.mp hu
    have hvalid := toNat_not_surrogate c
    omega
  rw [fromUnits, encode, units_length_flatMap_unitBytes (by omega) bigEndian hunits]
  exact fromUnits32_map t

/-- The text after a mark comes back, and the mark before it in all encodings but UTF-8. -/
theorem decode_marked (m : Mark) (t : Text) :
    m.encoding.decode (m.bytes ++ m.encode t) = .text (m.textAfter t) := by
  cases m with
  | utf8 =>
    have hmark : List.isPrefixOf [0xEF, 0xBB, 0xBF] (utf8.bytes ++ utf8.encode t) = true := rfl
    have hrest : (utf8.bytes ++ utf8.encode t).drop 3 = t.utf8 := rfl
    simp only [encoding, decode, hmark, if_true, hrest, decodeUtf8_utf8, textAfter]
  | utf16 bigEndian =>
    -- the order is known, so the mark is a character like the others
    rw [bytes_append_encode]
    show outcomeOf _ _ (fromUnits 2 bigEndian _) = _
    rw [fromUnits_encode_utf16]
    rfl
  | utf32 bigEndian =>
    rw [bytes_append_encode]
    show outcomeOf _ _ (fromUnits 4 bigEndian _) = _
    rw [fromUnits_encode_utf32]
    rfl

end Mark

end Encoding

theorem plainLineEnds_of_not_mem {t : Text} (h : '\r' ∉ t) : plainLineEnds t = t := by
  induction t with
  | nil => rfl
  | cons c t ih =>
    rw [List.mem_cons, not_or] at h
    rw [plainLineEnds, if_neg (Ne.symm h.1), ih h.2]

namespace Disk

open Encoding

variable {d : Disk} {path : Text} {bs : Bytes}

theorem encodingOf_of_find (h : d.find (Path.ofText path) = .ok (.file bs)) :
    d.encodingOf path = (markedEncoding? bs).getD
      (if Text.endsWith path ".py" then (declaredEncoding? bs).getD "utf-8" else "utf-8") := by
  have hbytes : ((d.read (Path.ofText path)).toOption).getD [] = bs := by
    rw [read_of_find h]
    rfl
  simp only [encodingOf, hbytes]
  cases markedEncoding? bs <;> rfl

theorem readTextBy_of_find (registry : Registry) (h : d.find (Path.ofText path) = .ok (.file bs)) :
    readTextBy registry d path none
      = registry (d.encodingOf path) >>= fun decode => (decode bs).settle bs := by
  simp only [readTextBy, has_of_find h, read_of_find h]
  rfl

/-- A file with a mark is read in the encoding that the mark tells. -/
theorem readText_eq_textAfter (m : Mark) {t : Text} (hreturn : '\r' ∉ t) (hnul : '\x00' ∉ t)
    (h : d.find (Path.ofText path) = .ok (.file (m.bytes ++ m.encode t))) :
    d.readText path none = .ok (m.textAfter t) := by
  have hname : d.encodingOf path = m.name := by
    rw [encodingOf_of_find h, m.markedEncoding?_marked hnul]
    rfl
  have hplain : '\r' ∉ m.textAfter t := by
    have hmark : '\r' ∉ Mark.char :: t := by
      rw [List.mem_cons, not_or]
      exact ⟨by decide, hreturn⟩
    cases m with
    | utf8 => exact hreturn
    | utf16 bigEndian => exact hmark
    | utf32 bigEndian => exact hmark
  rw [readText, readTextBy_of_find _ h, hname, standard, m.named?_name]
  show (m.encoding.decode _).settle _ = _
  rw [m.decode_marked, Outcome.settle, plainLineEnds_of_not_mem hplain]

/-- A text after a mark comes back from a file in UTF-8. From files in the four other encodings it
never does: there the mark is read as the first character of the text. -/
theorem readText_marked (m : Mark) {t : Text} (hreturn : '\r' ∉ t) (hnul : '\x00' ∉ t)
    (h : d.find (Path.ofText path) = .ok (.file (m.bytes ++ m.encode t))) :
    (m = .utf8 → d.readText path none = .ok t)
      ∧ (m ≠ .utf8 → d.readText path none = .ok (Char.ofNat 0xFEFF :: t))
      ∧ (d.readText path none = .ok t ↔ m = .utf8) := by
  have hread := readText_eq_textAfter m hreturn hnul h
  rw [hread]
  cases m with
  | utf8 => simp [Mark.textAfter]
  | utf16 bigEndian => simp [Mark.textAfter, Mark.char]
  | utf32 bigEndian => simp [Mark.textAfter, Mark.char]

/-- A letter above the numbers of two bytes, after a line feed and before another letter. -/
theorem readText_marked_deseret :
    '\r' ∉ (['\n', Char.ofNat 0x10400, 'a'] : Text)
      ∧ '\x00' ∉ (['\n', Char.ofNat 0x10400, 'a'] : Text)
      ∧ (withFile "a.txt"
          [0xEF, 0xBB, 0xBF, 0x0A, 0xF0, 0x90, 0x90, 0x80, 0x61]).readText "a.txt" none
        = .ok ['\n', Char.ofNat 0x10400, 'a'] := by
  have hreturn : '\r' ∉ (['\n', Char.ofNat 0x10400, 'a'] : Text) := by decide
  have hnul : '\x00' ∉ (['\n', Char.ofNat 0x10400, 'a'] : Text) := by decide
  exact ⟨hreturn, hnul, (readText_marked .utf8 hreturn hnul rfl).1 rfl⟩

/-- In UTF-16 a letter after a mark is read with the mark before it. -/
theorem readText_keeps_mark :
    (Mark.utf16 false).bytes ++ (Mark.utf16 false).encode ['a'] = [0xFF, 0xFE, 0x61, 0]
      ∧ (withFile "a.txt" [0xFF, 0xFE, 0x61, 0]).readText "a.txt" none
        = .ok [Char.ofNat 0xFEFF, 'a']
      ∧ (withFile "a.txt" [0xFF, 0xFE, 0x61, 0]).readText "a.txt" none ≠ .ok ['a'] := by
  have hread : (withFile "a.txt" [0xFF, 0xFE, 0x61, 0]).readText "a.txt" none
      = .ok [Char.ofNat 0xFEFF, 'a'] :=
    readText_eq_textAfter (.utf16 false) (t := ['a']) (by decide) (by decide) rfl
  refine ⟨rfl, hread, ?_⟩
  rw [hread]
  simp

end Disk

end CodeReview
