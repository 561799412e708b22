import CodeReview.Proofs.ByteOrder
import CodeReview.Proofs.Uncommenting
import Mathlib.Data.List.Infix

/-!
# Encodings that a source declares

A source may name its encoding in one of its first two lines. Any text can stand there, so the name
need not be one of an encoding. Reading a file without a given encoding fails just there: where no
mark tells the encoding, the name that is declared is not known, or its encoding refuses the bytes
instead of finding them undecodable. Everything else is read, if need be as one character for each
byte. This holds whichever encodings are known, as long as those of Unicode are.
-/

namespace CodeReview

/-! ## Declarations -/

namespace Text

set_option maxRecDepth 4000 in
/-- No blank is a word character. -/
theorem isBlank_of_isWord {c : Char} (h : isWord c = true) : isBlank c = false := by
  unfold isWord at h
  split at h
  · exact isBlank_of_isAlphanum h
  · rw [Bool.or_eq_true, Bool.or_eq_true, Bool.and_eq_true] at h
    rcases h with (⟨hstart, -⟩ | hnumber) | hletter
    · exact isBlank_of_isIdentifierStart hstart
    · exact isBlank_of_has_rows (by decide +kernel) hnumber
    · exact isBlank_of_has_rows (by decide +kernel) hletter

/-- The first thing that can be read in a text is read from the longest end of it that has one. -/
theorem firstAt?_eq_findSome?_tails {α : Type} (read : Text → Option α) (t : Text) :
    (firstAt? read t).map (·.2) = t.tails.findSome? read := by
  induction t with
  | nil =>
    show ((read []).map _).map _ = List.findSome? read [[]]
    rw [List.findSome?_cons]
    cases read [] <;> rfl
  | cons c t ih =>
    rw [firstAt?, List.tails_cons, List.findSome?_cons]
    cases read (c :: t) with
    | some a => rfl
    | none =>
      show ((firstAt? read t).map _).map _ = t.tails.findSome? read
      rw [← ih, Option.map_map]
      rfl

end Text

namespace Disk

open Encoding

/-- The text starts with the word, a sign, blanks, and a name with all its characters. -/
def StartsDeclaration (t name : Text) : Prop :=
  ∃ (sign : Char) (blanks rest : Text), t = "coding".toList ++ sign :: (blanks ++ (name ++ rest))
    ∧ (sign = ':' ∨ sign = '=') ∧ (∀ c ∈ blanks, Text.isBlank c = true)
    ∧ name ≠ [] ∧ (∀ c ∈ name, isNameChar c = true) ∧ ∀ c ∈ rest.head?, isNameChar c = false

theorem isBlank_of_isNameChar {c : Char} (h : isNameChar c = true) : Text.isBlank c = false := by
  simp only [isNameChar, Bool.or_eq_true, decide_eq_true_eq] at h
  rcases h with (hword | rfl) | rfl
  · exact Text.isBlank_of_isWord hword
  · decide
  · decide

theorem startsDeclaration_of_declarationAt? {t name : Text} (h : declarationAt? t = some name) :
    StartsDeclaration t name := by
  unfold declarationAt? at h
  split at h
  · cases h
  · rename_i hstarts
    simp only [Text.startsWith, Bool.not_eq_true, Bool.not_eq_false',
      List.isPrefixOf_iff_prefix] at hstarts
    obtain ⟨u, rfl⟩ := hstarts
    split at h
    · rename_i sign after hdrop
      have hu : u = sign :: after := hdrop
      split at h
      · rename_i hsign
        dsimp only at h
        split at h
        · cases h
        · rename_i hname
          cases h
          refine ⟨sign, after.takeWhile Text.isBlank,
            (after.dropWhile Text.isBlank).dropWhile isNameChar, ?_, by simpa using hsign,
            fun c hc => List.mem_takeWhile_imp hc, by simpa using hname,
            fun c hc => List.mem_takeWhile_imp hc, ?_⟩
          · rw [List.takeWhile_append_dropWhile, List.takeWhile_append_dropWhile, hu]
          · intro c hc
            have hnot := List.head?_dropWhile_not isNameChar (after.dropWhile Text.isBlank)
            rw [Option.mem_def.mp hc] at hnot
            exact hnot
      · cases h
    · cases h

theorem declarationAt?_of_startsDeclaration {t name : Text} (h : StartsDeclaration t name) :
    declarationAt? t = some name := by
  obtain ⟨sign, blanks, rest, rfl, hsign, hblanks, hname, hchars, hrest⟩ := h
  have hstarts :
      Text.startsWith ("coding".toList ++ sign :: (blanks ++ (name ++ rest))) "coding" = true :=
    List.isPrefixOf_iff_prefix.mpr (List.prefix_append _ _)
  have hdrop : ("coding".toList ++ sign :: (blanks ++ (name ++ rest))).drop 6
      = sign :: (blanks ++ (name ++ rest)) := rfl
  have hfirst : (blanks ++ (name ++ rest)).dropWhile Text.isBlank = name ++ rest := by
    rw [List.dropWhile_append_of_pos hblanks]
    cases name with
    | nil => exact absurd rfl hname
    | cons c name =>
      have hc : Text.isBlank c = false := isBlank_of_isNameChar (hchars c List.mem_cons_self)
      rw [List.cons_append, List.dropWhile_cons_of_neg (by rw [hc]; exact Bool.false_ne_true)]
  have htaken : (name ++ rest).takeWhile isNameChar = name := by
    rw [List.takeWhile_append_of_pos hchars]
    cases rest with
    | nil => rw [List.takeWhile_nil, List.append_nil]
    | cons c rest =>
      have hc : isNameChar c = false := hrest c rfl
      rw [List.takeWhile_cons_of_neg (by rw [hc]; exact Bool.false_ne_true), List.append_nil]
  have hsign : (sign = ':' || sign = '=') = true := by simpa using hsign
  simp only [declarationAt?, hstarts, hdrop, hfirst, htaken, hsign]
  simp [hname]

theorem declarationAt?_eq_some_iff {t name : Text} :
    declarationAt? t = some name ↔ StartsDeclaration t name :=
  ⟨startsDeclaration_of_declarationAt?, declarationAt?_of_startsDeclaration⟩

/-- Of all ends of the leading lines, from the first line and from the longest end on, the first
that starts a declaration starts one of this name. -/
def Declares (bs : Bytes) (name : Text) : Prop :=
  ∃ before t after, (leadingLines bs).flatMap List.tails = before ++ t :: after
    ∧ StartsDeclaration t name ∧ ∀ s ∈ before, ∀ other, ¬ StartsDeclaration s other

theorem declaredEncoding?_eq_some_iff {bs : Bytes} {name : Text} :
    declaredEncoding? bs = some name ↔ Declares bs name := by
  have htails (ls : List Text) :
      (ls.findSome? fun line => (Text.firstAt? declarationAt? line).map (·.2))
        = (ls.flatMap List.tails).findSome? declarationAt? := by
    induction ls with
    | nil => rfl
    | cons l ls ih =>
      rw [List.findSome?_cons, List.flatMap_cons, List.findSome?_append, ih,
        Text.firstAt?_eq_findSome?_tails]
      cases l.tails.findSome? declarationAt? <;> rfl
  have hnone (s : Text) : declarationAt? s = none ↔ ∀ other, ¬ StartsDeclaration s other := by
    rw [Option.eq_none_iff_forall_ne_some]
    simp only [ne_eq, declarationAt?_eq_some_iff]
  rw [declaredEncoding?, htails, List.findSome?_eq_some_iff]
  simp only [declarationAt?_eq_some_iff, hnone]
  rfl

theorem markedEncoding?_eq_none_iff {bs : Bytes} :
    markedEncoding? bs = none ↔ ∀ m : Mark, ¬ m.bytes <+: bs := by
  simp only [← List.isPrefixOf_iff_prefix]
  constructor
  · intro h m hm
    unfold markedEncoding? at h
    split_ifs at h with hutf8 hlittle32 hbig32 hlittle16 hbig16
    rcases m with _ | (_ | _) | (_ | _)
    · exact hutf8 hm
    · exact hlittle16 hm
    · exact hbig16 hm
    · exact hlittle32 hm
    · exact hbig32 hm
  · intro h
    unfold markedEncoding?
    split_ifs with hutf8 hlittle32 hbig32 hlittle16 hbig16
    · exact absurd hutf8 (h .utf8)
    · exact absurd hlittle32 (h (.utf32 false))
    · exact absurd hbig32 (h (.utf32 true))
    · exact absurd hlittle16 (h (.utf16 false))
    · exact absurd hbig16 (h (.utf16 true))
    · rfl

theorem exists_mark_of_markedEncoding? {bs : Bytes} {name : Text}
    (h : markedEncoding? bs = some name) :
    ∃ m : Mark, m.name = name := by
  unfold markedEncoding? at h
  split_ifs at h <;> cases h
  · exact ⟨.utf8, rfl⟩
  · exact ⟨.utf32 false, rfl⟩
  · exact ⟨.utf32 true, rfl⟩
  · exact ⟨.utf16 false, rfl⟩
  · exact ⟨.utf16 true, rfl⟩

end Disk

/-! ## Registries -/

namespace Encoding

theorem outcomeOf_ne_refused (encoding : Text) (bs : Bytes) (t : Option Text) (why : Failure) :
    outcomeOf encoding bs t ≠ .refused why := by
  cases t <;> simp [outcomeOf]

theorem decode_utf8_ne_refused (bs : Bytes) (why : Failure) : utf8.decode bs ≠ .refused why := by
  simp only [decode]
  cases decodeUtf8 bs <;> simp

theorem decode_mark_ne_refused (m : Mark) (bs : Bytes) (why : Failure) :
    m.encoding.decode bs ≠ .refused why := by
  cases m with
  | utf8 => exact decode_utf8_ne_refused _ why
  | utf16 bigEndian => exact outcomeOf_ne_refused _ _ _ why
  | utf32 bigEndian => exact outcomeOf_ne_refused _ _ _ why

namespace Registry

variable {r : Registry} {name : Text} {bs : Bytes} {why : Failure}

/-- The encodings that are found without a declaration are known: UTF-8 and those of the marks. -/
structure Covers (r : Registry) : Prop where
  utf8 : r "utf-8" = .ok Encoding.utf8.decode
  marked (m : Mark) : r m.name = .ok m.encoding.decode

theorem standard_covers : standard.Covers where
  utf8 := by
    rw [standard, show named? "utf-8" = some .utf8 by decide +kernel]
  marked m := by
    rw [standard, m.named?_name]

/-- There is nothing under the name, or what there is refuses the bytes. -/
def Refuses (r : Registry) (name : Text) (bs : Bytes) (why : Failure) : Prop :=
  r name = .error why ∨ ∃ decode, r name = .ok decode ∧ decode bs = .refused why

theorem settle_eq_error_iff :
    (r name >>= fun decode => (decode bs).settle bs) = .error why ↔ r.Refuses name bs why := by
  unfold Refuses
  cases hname : r name with
  | error other =>
    show Except.error other = .error why ↔ _
    simp
  | ok decode =>
    show (decode bs).settle bs = .error why ↔ _
    cases hdecode : decode bs <;> simp [Outcome.settle, hdecode]

theorem not_refuses {decode : Bytes → Outcome} (h : r name = .ok decode)
    (hdecode : ∀ why, decode bs ≠ .refused why) : ¬ r.Refuses name bs why := by
  rintro (herror | ⟨other, hother, hrefused⟩)
  · rw [h] at herror
    cases herror
  · rw [h] at hother
    cases hother
    exact hdecode why hrefused

end Registry

end Encoding

namespace Disk

open Encoding

variable {d : Disk} {path : Text} {bs : Bytes} {r : Registry}

theorem readTextBy_eq_error_iff (hr : r.Covers) (h : d.find (Path.ofText path) = .ok (.file bs))
    (why : Failure) :
    readTextBy r d path none = .error why ↔ (∀ m : Mark, ¬ m.bytes <+: bs) ∧ ".py".toList <:+ path
      ∧ ∃ name, Declares bs name ∧ r.Refuses name bs why := by
  have hutf8 : ¬ r.Refuses "utf-8" bs why :=
    Registry.not_refuses hr.utf8 (decode_utf8_ne_refused bs)
  rw [readTextBy_of_find r h, Registry.settle_eq_error_iff, encodingOf_of_find h,
    ← markedEncoding?_eq_none_iff]
  simp only [← declaredEncoding?_eq_some_iff]
  cases hmarked : markedEncoding? bs with
  | some name =>
    obtain ⟨m, rfl⟩ := exists_mark_of_markedEncoding? hmarked
    have hmark : ¬ r.Refuses m.name bs why :=
      Registry.not_refuses (hr.marked m) (decode_mark_ne_refused m bs)
    exact iff_of_false hmark fun hright => nomatch hright.1
  | none =>
    rw [Option.getD_none, ← List.isSuffixOf_iff_suffix]
    by_cases hpath : Text.endsWith path ".py" = true
    · rw [if_pos hpath]
      cases hdeclared : declaredEncoding? bs with
      | none => exact iff_of_false hutf8 fun ⟨_, _, _, hnone, _⟩ => nomatch hnone
      | some name =>
        constructor
        · intro hrefuses
          exact ⟨rfl, hpath, name, rfl, hrefuses⟩
        · rintro ⟨-, -, other, hother, hrefuses⟩
          rw [Option.getD_some, Option.some.inj hother]
          exact hrefuses
    · rw [if_neg hpath]
      exact iff_of_false hutf8 fun hright => hpath hright.2.1

/-- A file without a given encoding is read just if its declaration, where that counts, names an
encoding that is known and does not refuse the bytes. What is not read fails with what was said
about the name or the bytes. -/
theorem readTextBy_returns_iff (hr : r.Covers) (h : d.find (Path.ofText path) = .ok (.file bs)) :
    ((∃ t, readTextBy r d path none = .ok t)
        ↔ ((∀ m : Mark, ¬ m.bytes <+: bs) → ".py".toList <:+ path →
          ∀ name, Declares bs name → ∀ why, ¬ r.Refuses name bs why))
      ∧ ∀ why, readTextBy r d path none = .error why
        ↔ (∀ m : Mark, ¬ m.bytes <+: bs) ∧ ".py".toList <:+ path
          ∧ ∃ name, Declares bs name ∧ r.Refuses name bs why := by
  refine ⟨?_, readTextBy_eq_error_iff hr h⟩
  constructor
  · rintro ⟨t, ht⟩ hmarks hpath name hdeclares why hrefuses
    have herror := (readTextBy_eq_error_iff hr h why).mpr ⟨hmarks, hpath, name, hdeclares, hrefuses⟩
    rw [ht] at herror
    cases herror
  · intro hquiet
    cases hread : readTextBy r d path none with
    | ok t => exact ⟨t, rfl⟩
    | error why =>
      obtain ⟨hmarks, hpath, name, hdeclares, hrefuses⟩ :=
        (readTextBy_eq_error_iff hr h why).mp hread
      exact absurd hrefuses (hquiet hmarks hpath name hdeclares why)

/-- A byte that is no character of the encoding that is declared. -/
def accentInAscii : Bytes :=
  Text.utf8 "# coding: ascii\n" ++ [0xE9]

theorem readTextBy_returns_accentInAscii :
    Encoding.standard.Covers
      ∧ (withFile "a.py" accentInAscii).find (Path.ofText "a.py") = .ok (.file accentInAscii)
      ∧ ∃ t, (withFile "a.py" accentInAscii).readText "a.py" none = .ok t := by
  have hdeclared : declaredEncoding? accentInAscii = some "ascii" := by decide +kernel
  have hknown : Encoding.standard "ascii" = .ok Encoding.ascii.decode := by
    rw [Encoding.standard, show named? "ascii" = some .ascii by decide +kernel]
  have hreads (bs : Bytes) (why : Failure) : Encoding.ascii.decode bs ≠ .refused why :=
    outcomeOf_ne_refused _ _ _ why
  refine ⟨Registry.standard_covers, rfl, ?_⟩
  refine (readTextBy_returns_iff Registry.standard_covers rfl).1.mpr fun _ _ name hname why => ?_
  rw [← declaredEncoding?_eq_some_iff, hdeclared] at hname
  rw [← Option.some.inj hname]
  exact Registry.not_refuses hknown (hreads accentInAscii)

/-- A name that is known to nobody, and an encoding whose bytes have to tell their order. -/
theorem readText_fails_declared :
    (withFile "a.py" (Text.utf8 "# coding: klingon")).readText "a.py" none
        = .error (.unknownEncoding "klingon")
      ∧ (withFile "a.py" (Text.utf8 "# coding: utf-16")).readText "a.py" none
        = .error (.noByteOrder "UTF-16") := by
  constructor
  · decide +kernel
  · decide +kernel

end Disk

end CodeReview
