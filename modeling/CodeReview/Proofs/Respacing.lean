import CodeReview.Likeness.Normal
import CodeReview.Proofs.Hashes
import CodeReview.Proofs.Tidying

/-!
# Sources that differ in comments and blanks

What is left of a line is cut at its first hash sign, or not at all if the quotes before that sign
are open, and has no blanks at its end. Cutting it again finds the same sign or none. Lines that
become blank are dropped, so it does not matter where and how many of them are put in: between two
lines that are kept nothing is remembered. A comment that is put at the end of a line is seen if the
first hash sign is its own or stands before it in a comment, and not if that sign is in a string.
-/

namespace CodeReview.Likeness

open Text (isBlank allBlank stripRight)

/-! ## One line -/

section

variable {line p t w : Text}

/-- The quote of the string that is open after a text. -/
def quoteIn (t : Text) : Option Char :=
  t.foldl quoteAfter none

theorem findIdx?_of_not_mem (h : '#' ∉ t) : t.findIdx? (· = '#') = none := by
  rw [List.findIdx?_eq_none_iff]
  exact fun c hc => decide_eq_false (ne_of_mem_of_not_mem hc h)

theorem normalLine_of_not_mem (h : '#' ∉ stripRight line) : normalLine line = stripRight line := by
  unfold normalLine
  extract_lets stripped
  rw [findIdx?_of_not_mem h]

/-- What is left of a line depends on the strings before its first hash sign. -/
theorem normalLine_of_append (h : stripRight line = p ++ '#' :: t) (hp : '#' ∉ p) :
    normalLine line = if (quoteIn p).isSome then stripRight line else stripRight p := by
  have hpos : (stripRight line).findIdx? (· = '#') = some p.length := by
    rw [h, List.findIdx?_append, findIdx?_of_not_mem hp, List.findIdx?_cons,
      if_pos (decide_eq_true rfl)]
    simp
  have htake : (stripRight line).take p.length = p := by
    rw [h, List.take_left]
  unfold normalLine
  extract_lets stripped
  rw [hpos]
  show (if insideString (stripRight line) p.length then stripRight line
    else stripRight ((stripRight line).take p.length)) = _
  rw [htake, insideString, Int.toNat_natCast, htake]
  rfl

theorem normalLine_cases (line : Text) :
    '#' ∉ stripRight line ∧ normalLine line = stripRight line
      ∨ ∃ p t, stripRight line = p ++ '#' :: t ∧ '#' ∉ p
        ∧ normalLine line = if (quoteIn p).isSome then stripRight line else stripRight p := by
  by_cases hmem : '#' ∈ stripRight line
  · obtain ⟨p, t, h, hp⟩ := List.eq_append_cons_of_mem hmem
    exact .inr ⟨p, t, h, hp, normalLine_of_append h hp⟩
  · exact .inl ⟨hmem, normalLine_of_not_mem hmem⟩

theorem normalLine_congr {line' : Text} (h : stripRight line = stripRight line') :
    normalLine line = normalLine line' := by
  unfold normalLine
  rw [h]

theorem normalLine_isPrefix (line : Text) : normalLine line <+: line := by
  have hstrip := Source.isPrefix_stripRight line
  obtain ⟨-, hline⟩ | ⟨p, t, h, -, hline⟩ := normalLine_cases line
  · rw [hline]
    exact hstrip
  · rw [hline]
    split
    · exact hstrip
    · have hfull : p <+: _ := h ▸ List.prefix_append p ('#' :: t)
      exact ((Source.isPrefix_stripRight p).trans hfull).trans hstrip

/-- A line with no blank at its end and no hash sign, or the first of them in a string. -/
structure Clean (line : Text) : Prop where
  isBlank_eq : ∀ c ∈ line.getLast?, isBlank c = false
  isSome_quoteIn : ∀ p t, line = p ++ '#' :: t → '#' ∉ p → (quoteIn p).isSome = true

theorem clean_normalLine (line : Text) : Clean (normalLine line) := by
  have hlast (u : Text) : ∀ c ∈ (stripRight u).getLast?, isBlank c = false :=
    fun _ hc => Text.eq_false_of_getLast?_rdropWhile hc
  have hfree {u : Text} (hu : '#' ∉ u) {p t : Text} (h : u = p ++ '#' :: t) : False :=
    hu (h ▸ List.mem_append_right p List.mem_cons_self)
  obtain ⟨hnot, hline⟩ | ⟨p, t, h, hp, hline⟩ := normalLine_cases line
  · rw [hline]
    exact ⟨hlast line, fun _ _ hsplit _ => (hfree hnot hsplit).elim⟩
  rw [hline]
  split
  · next hquote =>
    refine ⟨hlast line, fun p' t' hsplit hp' => ?_⟩
    -- There is one first hash sign.
    rw [h] at hsplit
    obtain ⟨rfl, -⟩ := Text.eq_of_first_eq hp hp' hsplit
    exact hquote
  · have hnot : '#' ∉ stripRight p := fun hmem => hp ((Source.isPrefix_stripRight p).subset hmem)
    exact ⟨hlast p, fun _ _ hsplit _ => (hfree hnot hsplit).elim⟩

theorem Clean.normalLine_eq (h : Clean line) : normalLine line = line := by
  have hstrip : stripRight line = line :=
    Text.rdropWhile_eq_self_iff_getLast?.mpr h.isBlank_eq
  obtain ⟨-, hline⟩ | ⟨p, t, hsplit, hp, hline⟩ := normalLine_cases line
  · exact hline.trans hstrip
  · have hquote := h.isSome_quoteIn p t (hstrip.symm.trans hsplit) hp
    rw [hline, if_pos hquote, hstrip]

/-! ## Lines that do not count -/

/-- Blanks, and a comment after them or none. -/
inductive Mute : Text → Prop where
  | blank {w : Text} (hw : ∀ c ∈ w, isBlank c = true) : Mute w
  | comment {w : Text} (hw : ∀ c ∈ w, isBlank c = true) (t : Text) : Mute (w ++ '#' :: t)

theorem quoteIn_blanks (hw : ∀ c ∈ w, isBlank c = true) : quoteIn w = none := by
  unfold quoteIn
  induction w with
  | nil => rfl
  | cons c w ih =>
    obtain ⟨hc, hw⟩ := List.forall_mem_cons.mp hw
    have hquote : ¬ (c = '\'' || c = '"') = true := by
      rw [Bool.or_eq_true, decide_eq_true_eq, decide_eq_true_eq]
      rintro (rfl | rfl)
      all_goals exact absurd hc (by decide)
    rw [List.foldl_cons, quoteAfter, if_neg hquote]
    exact ih hw

theorem stripRight_hash (p t : Text) : stripRight (p ++ '#' :: t) = p ++ '#' :: stripRight t := by
  rw [List.append_cons, Text.stripRight_append_of_last List.getLast?_concat (by decide),
    ← List.append_cons]

theorem Mute.normalLine_eq (h : Mute line) : normalLine line = [] := by
  cases h with
  | blank hw =>
    have hnil := Text.stripRight_eq_nil hw
    rw [normalLine_of_not_mem (by rw [hnil]; exact List.not_mem_nil), hnil]
  | @comment w hw t =>
    -- The first hash sign is the one after the blanks, and no quote stands before it.
    have hfree : '#' ∉ w := fun hmem => absurd (hw _ hmem) (by decide)
    rw [normalLine_of_append (stripRight_hash w t) hfree, quoteIn_blanks hw]
    exact Text.stripRight_eq_nil hw

theorem normalLine_append (line : Text) (hw : ∀ c ∈ w, isBlank c = true) :
    normalLine (line ++ w) = normalLine line := by
  refine normalLine_congr ?_
  rw [Text.stripRight_append, if_pos (Text.stripRight_eq_nil hw)]

end

/-! ## Sources -/

/-- The lines that are kept, as they are kept. -/
def keptLines (ls : List Text) : List Text :=
  (ls.map normalLine).filter fun line => !allBlank line

theorem normalForm_eq (source : Text) :
    normalForm source = Text.unlines (keptLines (Text.lines source)) := rfl

/-- A line that is kept as it is. -/
def Kept (line : Text) : Prop :=
  Clean line ∧ allBlank line = false

theorem kept_of_mem_keptLines {ls : List Text} {l : Text} (h : l ∈ keptLines ls) : Kept l := by
  obtain ⟨hmem, hblank⟩ := List.mem_filter.mp h
  obtain ⟨a, -, rfl⟩ := List.mem_map.mp hmem
  exact ⟨clean_normalLine a, Bool.not_eq_eq_eq_not.mp hblank⟩

theorem keptLines_eq_self {ls : List Text} (h : ∀ l ∈ ls, Kept l) : keptLines ls = ls := by
  have hsame : ls.map normalLine = ls :=
    (List.map_congr_left fun l hl => (h l hl).1.normalLine_eq).trans (List.map_id _)
  rw [keptLines, hsame, List.filter_eq_self]
  exact fun l hl => by rw [(h l hl).2]; rfl

theorem lines_normalForm {source : Text} (h : keptLines (Text.lines source) ≠ []) :
    Text.lines (normalForm source) = keptLines (Text.lines source) := by
  rw [normalForm_eq]
  refine Text.lines_unlines h fun l hl => ?_
  obtain ⟨a, ha, rfl⟩ := List.mem_map.mp (List.mem_filter.mp hl).1
  exact fun hmem => Text.not_mem_of_mem_lines ha ((normalLine_isPrefix a).subset hmem)

theorem normalForm_eq_self_iff (source : Text) :
    normalForm source = source ↔ source = [] ∨ ∀ l ∈ Text.lines source, Kept l := by
  constructor
  · intro h
    by_cases hnone : keptLines (Text.lines source) = []
    · rw [normalForm_eq, hnone] at h
      exact .inl h.symm
    · have hlines := lines_normalForm hnone
      rw [h] at hlines
      exact .inr fun l hl => kept_of_mem_keptLines (hlines ▸ hl)
  · rintro (rfl | h)
    · rfl
    · rw [normalForm_eq, keptLines_eq_self h, Text.unlines_lines]

theorem normalForm_normalForm (source : Text) :
    normalForm (normalForm source) = normalForm source := by
  rw [normalForm_eq_self_iff]
  by_cases hnone : keptLines (Text.lines source) = []
  · rw [normalForm_eq, hnone]
    exact .inl rfl
  · rw [lines_normalForm hnone]
    exact .inr fun l hl => kept_of_mem_keptLines hl

/-- Lines before and after an edit that puts in lines without code and adds blanks at the ends of
the others. -/
inductive Respaced : List Text → List Text → Prop where
  | nil : Respaced [] []
  | insert {l : Text} {ls ls' : List Text} (hl : Mute l) (h : Respaced ls ls') :
    Respaced ls (l :: ls')
  | keep {l w : Text} {ls ls' : List Text} (hw : ∀ c ∈ w, isBlank c = true)
    (h : Respaced ls ls') : Respaced (l :: ls) ((l ++ w) :: ls')

theorem Respaced.keptLines_eq {ls ls' : List Text} (h : Respaced ls ls') :
    keptLines ls' = keptLines ls := by
  induction h with
  | nil => rfl
  | insert hl h ih =>
    -- Nothing is left of the line, and an empty line is not kept.
    rw [← ih, keptLines, List.map_cons, hl.normalLine_eq]
    rfl
  | keep hw h ih =>
    unfold keptLines at ih ⊢
    rw [List.map_cons, List.map_cons, normalLine_append _ hw, List.filter_cons, List.filter_cons,
      ih]

/-- The normal form of a source is its own normal form, and a source is its normal form just if all
its lines are kept as they are. Lines without code that are put in anywhere and blanks that are
added to the ends of lines do not change it, nor the digest of the source. -/
theorem normalForm_respaced (source : Text) :
    normalForm (normalForm source) = normalForm source
      ∧ (normalForm source = source ↔ source = [] ∨ ∀ l ∈ Text.lines source, Kept l)
      ∧ ∀ respaced, Respaced (Text.lines source) (Text.lines respaced) →
        normalForm respaced = normalForm source
          ∧ sourceDigest respaced = sourceDigest source := by
  refine ⟨normalForm_normalForm source, normalForm_eq_self_iff source, fun respaced h => ?_⟩
  have hform : normalForm respaced = normalForm source := congrArg Text.unlines h.keptLines_eq
  exact ⟨hform, congrArg textDigest hform⟩

/-- A hash sign in a string. -/
def dense : Text :=
  "a = '#'\nb = 1"

/-- The same with blanks and comments, one of which has a quote in it. -/
def spread : Text :=
  "\t\na = '#' \x0c\n  # it's\nb = 1\n#"

theorem normalForm_respaced_spread :
    Respaced (Text.lines dense) (Text.lines spread) ∧ normalForm dense = dense
      ∧ normalForm spread = dense ∧ sourceDigest spread = sourceDigest dense := by
  have hdense : Text.lines dense = [("a = '#'" : Text), ("b = 1" : Text)] := by decide +kernel
  have hspread : Text.lines spread = [['\t'], ("a = '#'" : Text) ++ [' ', '\x0c'],
      [' ', ' '] ++ '#' :: (" it's" : Text), ("b = 1" : Text) ++ [], [] ++ '#' :: []] := by
    decide +kernel
  have hall {w : Text} (h : w.all isBlank = true) : ∀ c ∈ w, isBlank c = true :=
    List.all_eq_true.mp h
  have hrespaced : Respaced (Text.lines dense) (Text.lines spread) := by
    rw [hdense, hspread]
    refine .insert (.blank (hall ?_)) (.keep (hall ?_) (.insert (.comment (hall ?_) _)
      (.keep (hall ?_) (.insert (.comment (hall ?_) _) .nil))))
    all_goals decide +kernel
  have hnormal : normalForm dense = dense := by decide +kernel
  obtain ⟨hform, hdigest⟩ := (normalForm_respaced dense).2.2 spread hrespaced
  exact ⟨hrespaced, hnormal, hform.trans hnormal, hdigest⟩

/-! ## Comments at the ends of lines -/

section

variable {line p t : Text} {before after : List Text}

/-- A line with a comment two blanks after its end. -/
def annotated (line comment : Text) : Text :=
  line ++ ' ' :: ' ' :: '#' :: ' ' :: comment

/-- The first hash sign of a line is in a string. -/
def HidesHash (line : Text) : Prop :=
  ∃ p t, line = p ++ '#' :: t ∧ '#' ∉ p ∧ (quoteIn p).isSome = true

theorem normalLine_hash (hp : '#' ∉ p) (t : Text) :
    normalLine (p ++ '#' :: t)
      = if (quoteIn p).isSome then p ++ '#' :: stripRight t else stripRight p := by
  rw [normalLine_of_append (stripRight_hash p t) hp, stripRight_hash]

theorem normalLine_annotated (h : ¬ HidesHash line) (hclosed : quoteIn line = none) (c : Text) :
    normalLine (annotated line c) = normalLine line := by
  by_cases hmem : '#' ∈ line
  · -- The line is cut at the hash sign that it has.
    obtain ⟨p, t, rfl, hp⟩ := List.eq_append_cons_of_mem hmem
    have hquote : ¬ (quoteIn p).isSome = true := fun hsome => h ⟨p, t, rfl, hp, hsome⟩
    rw [annotated, List.append_assoc, List.cons_append, normalLine_hash hp, normalLine_hash hp,
      if_neg hquote, if_neg hquote]
  · -- The first hash sign is the one of the comment.
    have hsplit : annotated line c = (line ++ [' ', ' ']) ++ '#' :: ' ' :: c := by simp [annotated]
    have hfree : '#' ∉ line ++ [' ', ' '] := by simp [hmem]
    have hquote : quoteIn (line ++ [' ', ' ']) = none := by
      rw [quoteIn, List.foldl_append]
      exact hclosed
    have hnot : '#' ∉ stripRight line :=
      fun hin => hmem ((Source.isPrefix_stripRight line).subset hin)
    rw [hsplit, normalLine_hash hfree, hquote, normalLine_of_not_mem hnot]
    show stripRight (line ++ [' ', ' ']) = stripRight line
    rw [Text.stripRight_append, if_pos (by decide)]

namespace HidesHash

theorem normalLine_eq (h : HidesHash line) : normalLine line = stripRight line := by
  obtain ⟨p, t, rfl, hp, hquote⟩ := h
  rw [normalLine_hash hp, if_pos hquote, stripRight_hash]

theorem annotated (h : HidesHash line) (c : Text) : HidesHash (annotated line c) := by
  obtain ⟨p, t, rfl, hp, hquote⟩ := h
  exact ⟨p, _, by rw [Likeness.annotated, List.append_assoc, List.cons_append], hp, hquote⟩

theorem keptLines_cons (h : HidesHash line) (ls : List Text) :
    keptLines (line :: ls) = stripRight line :: keptLines ls := by
  have hblank : allBlank (stripRight line) = false := by
    obtain ⟨p, t, rfl, -, -⟩ := h
    rw [stripRight_hash]
    exact List.all_eq_false.mpr ⟨'#', List.mem_append_right p List.mem_cons_self, by decide⟩
  rw [keptLines, List.map_cons, h.normalLine_eq, List.filter_cons_of_pos (by rw [hblank]; rfl)]
  rfl

theorem keptLines_append_cons (h : HidesHash line) :
    keptLines (before ++ line :: after)
      = keptLines before ++ stripRight line :: keptLines after := by
  rw [← h.keptLines_cons, keptLines, List.map_append, List.filter_append]
  rfl

/-- The comment is kept with the line. -/
theorem keptLines_annotated_ne (h : HidesHash line) (c : Text) :
    keptLines (before ++ Likeness.annotated line c :: after)
      ≠ keptLines (before ++ line :: after) := by
  rw [(h.annotated c).keptLines_append_cons, h.keptLines_append_cons]
  intro heq
  have hline := (List.cons.inj (List.append_cancel_left heq)).1
  have hsplit : Likeness.annotated line c = (line ++ [' ', ' ']) ++ '#' :: ' ' :: c := by
    simp [Likeness.annotated]
  rw [hsplit, stripRight_hash] at hline
  have hlength := congrArg List.length hline
  have hshort := (Source.isPrefix_stripRight line).length_le
  simp only [List.length_append, List.length_cons] at hlength
  omega

end HidesHash

/-- A comment at the end of a line that ends outside of strings leaves the normal form of the source
and its digest as they are if the first hash sign of the line is outside of strings too, or the line
has none. Otherwise the comment becomes a part of the normal form. -/
theorem normalForm_annotated {source c : Text}
    (hsource : Text.lines source = before ++ line :: after)
    (hclosed : insideString line line.length = false) (hc : '\n' ∉ c) :
    (normalForm (Text.unlines (before ++ annotated line c :: after)) = normalForm source
        ↔ ¬ HidesHash line)
      ∧ (¬ HidesHash line → sourceDigest (Text.unlines (before ++ annotated line c :: after))
        = sourceDigest source) := by
  have hfree : ∀ l ∈ before ++ annotated line c :: after, '\n' ∉ l := by
    have hlines : ∀ l ∈ before ++ line :: after, '\n' ∉ l := fun l hl =>
      Text.not_mem_of_mem_lines (hsource ▸ hl)
    simp only [List.forall_mem_append, List.forall_mem_cons] at hlines ⊢
    refine ⟨hlines.1, ?_, hlines.2.2⟩
    simp [annotated, hlines.2.1, hc]
  have hcommented : Text.lines (Text.unlines (before ++ annotated line c :: after))
      = before ++ annotated line c :: after := Text.lines_unlines (by simp) hfree
  have hsame (h : ¬ HidesHash line) :
      normalForm (Text.unlines (before ++ annotated line c :: after)) = normalForm source := by
    have hquote : quoteIn line = none := by
      rw [insideString, Int.toNat_natCast, List.take_length] at hclosed
      exact Option.not_isSome_iff_eq_none.mp (Bool.not_eq_true _ ▸ hclosed)
    rw [normalForm_eq, normalForm_eq, hcommented, hsource]
    simp only [keptLines, List.map_append, List.map_cons, normalLine_annotated h hquote]
  refine ⟨⟨fun heq h => ?_, hsame⟩, fun h => congrArg textDigest (hsame h)⟩
  have hlines := congrArg Text.lines heq
  rw [lines_normalForm (by simp [hcommented, (h.annotated c).keptLines_append_cons]),
    lines_normalForm (by simp [hsource, h.keptLines_append_cons]), hcommented, hsource] at hlines
  exact h.keptLines_annotated_ne c hlines

end

/-- A line with quotes of both kinds. -/
def quoting : Text :=
  "say(\"it's\")"

theorem normalForm_annotated_quoting :
    insideString quoting quoting.length = false ∧ ¬ HidesHash quoting
      ∧ normalForm "x = 1\nsay(\"it's\")  # don't\n" = normalForm "x = 1\nsay(\"it's\")\n" := by
  have hclosed : insideString quoting quoting.length = false := by decide +kernel
  have hhides : ¬ HidesHash quoting := by
    rintro ⟨p, t, hsplit, -, -⟩
    have hmem : '#' ∈ quoting := hsplit ▸ List.mem_append_right p List.mem_cons_self
    exact absurd hmem (by decide +kernel)
  have hlines : Text.lines "x = 1\nsay(\"it's\")\n" = [("x = 1" : Text)] ++ quoting :: [[]] := by
    decide +kernel
  have hcommented : Text.unlines ([("x = 1" : Text)] ++ annotated quoting "don't" :: [[]])
      = "x = 1\nsay(\"it's\")  # don't\n" := by decide +kernel
  refine ⟨hclosed, hhides, ?_⟩
  rw [← hcommented]
  exact (normalForm_annotated hlines hclosed (by decide +kernel)).1.mpr hhides

/-- The comment after a string with a hash sign is not seen. -/
theorem normalForm_annotated_hidden :
    insideString "a = '#'" (("a = '#'" : Text).length) = false
      ∧ normalForm (annotated "a = '#'" "note") ≠ normalForm "a = '#'" := by
  decide +kernel

end CodeReview.Likeness
