import CodeReview.Proofs.Comments

/-!
# What is left of a line

Where comments are looked for, a line is passed over in pieces: a character outside of strings, the
quotes that open a string or close it, a character inside of one, a backslash with the character
after it. Every piece is taken over as it is, up to the comment or the end of the line. The one
other place at which there is no piece is a backslash that ends the line inside of a string: it is
written twice.

Cutting the blanks off what is left falls between two pieces, but for a blank that was escaped. Then
its backslash ends the line, and doing the same again doubles it.
-/

namespace CodeReview.Source

/-! ## The pieces of a line -/

def IsQuote (c : Char) : Prop :=
  c = '"' ∨ c = '\''

theorem IsQuote.ne_backslash {c : Char} (h : IsQuote c) : c ≠ '\\' := by
  obtain rfl | rfl := h <;> decide

theorem IsQuote.ne_hash {c : Char} (h : IsQuote c) : c ≠ '#' := by
  obtain rfl | rfl := h <;> decide

theorem IsQuote.isBlank_eq {c : Char} (h : IsQuote c) : Text.isBlank c = false := by
  obtain rfl | rfl := h <;> decide

/-- What opens and closes a string. -/
def Quotation.mark (q : Quotation) : Text :=
  List.replicate (if q.triple then 3 else 1) q.quote

theorem Quotation.mark_ne_nil (q : Quotation) : q.mark ≠ [] := by
  unfold Quotation.mark
  split <;> exact List.cons_ne_nil _ _

/-- A piece of a line with the string that is open before it, what follows it, and the string that
is open after it. -/
inductive Piece : Option Quotation → Text → Text → Option Quotation → Prop where
  | plain {c : Char} {rest : Text} (hhash : c ≠ '#') (hquote : ¬ IsQuote c) :
    Piece none [c] rest none
  | opening {q : Quotation} {rest : Text} (hq : IsQuote q.quote)
    (hrest : q.triple = false → ¬ List.replicate 2 q.quote <+: rest) :
    Piece none q.mark rest (some q)
  | escape {q : Quotation} {c : Char} {rest : Text} : Piece (some q) ['\\', c] rest (some q)
  | closing {q : Quotation} {rest : Text} (hq : IsQuote q.quote) : Piece (some q) q.mark rest none
  | inside {q : Quotation} {c : Char} {rest : Text} (hback : c ≠ '\\')
    (hmark : ¬ q.mark <+: c :: rest) : Piece (some q) [c] rest (some q)

/-- A part of a line that is passed over piece by piece. -/
inductive Passes : Option Quotation → Text → Text → Option Quotation → Prop where
  | done {s : Option Quotation} {rest : Text} : Passes s [] rest s
  | step {s s' s'' : Option Quotation} {p t rest : Text} (h : Piece s p (t ++ rest) s')
    (ht : Passes s' t rest s'') : Passes s (p ++ t) rest s''

section

variable {s s' s'' : Option Quotation} {q : Quotation} {c : Char} {p t rest : Text}

theorem Quotation.mark_prefix_iff (t : Text) :
    q.mark <+: t ↔ t.take (if q.triple then 3 else 1) = q.mark := by
  rw [List.prefix_iff_eq_take, eq_comm]
  simp [Quotation.mark]

/-- A piece is taken over as it is. -/
theorem Piece.uncommented_eq (h : Piece s p rest s') :
    uncommentedFrom s 0 (p ++ rest) = p ++ uncommentedFrom s' 0 rest := by
  cases h with
  | plain hhash hquote =>
    simp only [IsQuote, not_or] at hquote
    simp [uncommentedFrom, hhash, hquote]
  | @opening q rest hq hrest =>
    obtain ⟨c, triple⟩ := q
    have hhash := hq.ne_hash
    cases triple with
    | true => simp [Quotation.mark, List.replicate, uncommentedFrom, hhash, hq.imp]
    | false =>
      have htake : rest.take 2 ≠ [c, c] := by
        intro h
        exact hrest rfl (List.prefix_iff_eq_take.mpr h.symm)
      simp [Quotation.mark, uncommentedFrom, hhash, hq.imp, htake]
  | escape => simp [uncommentedFrom]
  | @closing q rest hq =>
    obtain ⟨c, triple⟩ := q
    have hback := hq.ne_backslash
    cases triple with
    | true => simp [Quotation.mark, List.replicate, uncommentedFrom, hback]
    | false => simp [Quotation.mark, uncommentedFrom, hback]
  | @inside q c rest hback hmark =>
    rw [q.mark_prefix_iff] at hmark
    obtain ⟨d, triple⟩ := q
    cases triple with
    | true =>
      have hthree : ¬ (c = d ∧ rest.take 2 = [d, d]) := by
        simpa [Quotation.mark, List.replicate] using hmark
      simp [uncommentedFrom, hback, hthree]
    | false =>
      have hone : c ≠ d := by simpa [Quotation.mark] using hmark
      simp [uncommentedFrom, hback, hone]

theorem Passes.uncommented_eq (h : Passes s t rest s') :
    uncommentedFrom s 0 (t ++ rest) = t ++ uncommentedFrom s' 0 rest := by
  induction h with
  | done => rfl
  | step h ht ih => rw [List.append_assoc, h.uncommented_eq, ih, List.append_assoc]

/-- Quotes that stand before something else end there. -/
theorem replicate_prefix_of_append {n : Nat} {q : Char} (hrest : rest.head? ≠ some q)
    (h : List.replicate n q <+: t ++ rest) : List.replicate n q <+: t := by
  induction n generalizing t with
  | zero => exact List.nil_prefix
  | succ n ih =>
    cases t with
    | nil =>
      rw [List.nil_append, List.replicate_succ] at h
      obtain ⟨u, hu⟩ := h
      exact absurd (hu ▸ rfl) hrest
    | cons d t =>
      rw [List.replicate_succ, List.cons_append, List.cons_prefix_cons] at h
      rw [List.replicate_succ, List.cons_prefix_cons]
      exact ⟨h.1, ih h.2⟩

/-- The open string, if there is one, is one in quotes. -/
def Proper (s : Option Quotation) : Prop :=
  ∀ q ∈ s, IsQuote q.quote

theorem Piece.proper (h : Piece s p rest s') (hs : Proper s) : Proper s' := by
  cases h with
  | plain => exact hs
  | opening hq => rintro _ ⟨⟩; exact hq
  | escape => exact hs
  | closing => rintro _ ⟨⟩
  | inside => exact hs

theorem Passes.proper (h : Passes s t rest s') (hs : Proper s) : Proper s' := by
  induction h with
  | done => exact hs
  | step h _ ih => exact ih (h.proper hs)

/-- A rest that starts with a quote could make a mark longer, any other rest is as good as none. -/
def Plainly (rest : Text) : Prop :=
  ∀ c ∈ rest.head?, ¬ IsQuote c

theorem plainly_nil : Plainly [] := by
  rintro _ ⟨⟩

theorem plainly_backslash (t : Text) : Plainly ('\\' :: t) := by
  rintro _ ⟨⟩ hquote
  exact hquote.ne_backslash rfl

theorem Piece.of_rest {rest' : Text} (h : Piece s p (t ++ rest) s') (hs : Proper s)
    (hrest : Plainly rest') : Piece s p (t ++ rest') s' := by
  cases h with
  | plain hhash hquote => exact .plain hhash hquote
  | @opening q _ hq hlong =>
    refine .opening hq fun htriple hprefix => hlong htriple ?_
    have hhead : rest'.head? ≠ some q.quote := fun h => hrest _ h hq
    exact (replicate_prefix_of_append hhead hprefix).trans (List.prefix_append t rest)
  | escape => exact .escape
  | closing hq => exact .closing hq
  | @inside q c _ hback hmark =>
    -- A mark is quotes only, so one that is found with the new rest stands before it.
    refine .inside hback fun hprefix => hmark ?_
    have hhead : rest'.head? ≠ some q.quote := fun h => hrest _ h (hs q rfl)
    rw [← List.cons_append] at hprefix
    exact (replicate_prefix_of_append hhead hprefix).trans (List.prefix_append (c :: t) rest)

theorem Passes.of_rest {rest' : Text} (h : Passes s t rest s') (hs : Proper s)
    (hrest : Plainly rest') : Passes s t rest' s' := by
  induction h with
  | done => exact .done
  | step h ht ih => exact .step (h.of_rest hs hrest) (ih (h.proper hs))

theorem Passes.trans {u : Text} (h : Passes s t (u ++ rest) s') (hu : Passes s' u rest s'') :
    Passes s (t ++ u) rest s'' := by
  generalize hrest : u ++ rest = r at h
  induction h with
  | done => exact hu
  | @step _ _ _ p t _ h _ ih =>
    subst hrest
    have hpiece := h
    rw [← List.append_assoc] at hpiece
    rw [List.append_assoc]
    exact .step hpiece (ih hu rfl)

/-! ## Where a line ends -/

/-- The places at which there is no further piece. -/
inductive Ends : Option Quotation → Text → Prop where
  | line {s : Option Quotation} : Ends s []
  | comment {t : Text} : Ends none ('#' :: t)
  | backslash {q : Quotation} : Ends (some q) ['\\']

theorem exists_piece (s : Option Quotation) (hs : Proper s) (t : Text) :
    Ends s t ∨ ∃ p rest s', t = p ++ rest ∧ p ≠ [] ∧ Piece s p rest s' := by
  cases t with
  | nil => exact .inl .line
  | cons c t =>
  cases s with
  | none =>
    by_cases hhash : c = '#'
    · subst hhash
      exact .inl .comment
    by_cases hquote : IsQuote c
    · by_cases hlong : List.replicate 2 c <+: t
      · obtain ⟨rest, rfl⟩ := hlong
        exact .inr ⟨_, rest, _, rfl, List.cons_ne_nil _ _,
          .opening (q := ⟨c, true⟩) hquote Bool.noConfusion⟩
      · exact .inr ⟨_, t, _, rfl, List.cons_ne_nil _ _,
          .opening (q := ⟨c, false⟩) hquote fun _ => hlong⟩
    · exact .inr ⟨[c], t, none, rfl, List.cons_ne_nil _ _, .plain hhash hquote⟩
  | some q =>
    by_cases hback : c = '\\'
    · subst hback
      cases t with
      | nil => exact .inl .backslash
      | cons d rest => exact .inr ⟨['\\', d], rest, _, rfl, List.cons_ne_nil _ _, .escape⟩
    by_cases hmark : q.mark <+: c :: t
    · obtain ⟨rest, hrest⟩ := hmark
      exact .inr ⟨q.mark, rest, none, hrest.symm, q.mark_ne_nil, .closing (hs q rfl)⟩
    · exact .inr ⟨[c], t, some q, rfl, List.cons_ne_nil _ _, .inside hback hmark⟩

/-- Every line is passed over up to its end, its comment or a backslash that ends it. -/
theorem exists_passes (s : Option Quotation) (hs : Proper s) (t : Text) :
    ∃ p rest s', t = p ++ rest ∧ Passes s p rest s' ∧ Ends s' rest := by
  induction hn : t.length using Nat.strong_induction_on generalizing s t with
  | _ n ih =>
  obtain hend | ⟨p, rest, s', rfl, hne, hpiece⟩ := exists_piece s hs t
  -- A piece is never empty, so what follows it is shorter.
  · exact ⟨[], t, s, rfl, .done, hend⟩
  · have hpos := List.length_pos_iff.mpr hne
    rw [List.length_append] at hn
    obtain ⟨p', rest', s'', rfl, hpasses, hend⟩ :=
      ih rest.length (by omega) s' (hpiece.proper hs) rest rfl
    exact ⟨p ++ p', rest', s'', (List.append_assoc ..).symm, .step hpiece hpasses, hend⟩

/-- A line that ends inside of a string, with a backslash that has nothing to escape. -/
def Dangles (line : Text) : Prop :=
  ∃ t q, line = t ++ ['\\'] ∧ Passes none t ['\\'] (some q)

/-! ## Blanks at the end -/

theorem exists_blanks (t : Text) :
    ∃ w, t = Text.stripRight t ++ w ∧ ∀ c ∈ w, Text.isBlank c = true :=
  ⟨t.rtakeWhile Text.isBlank, (List.rdropWhile_append_rtakeWhile ..).symm,
    fun _ hc => List.mem_rtakeWhile_imp hc⟩

/-- A string that is open stays open over blanks. -/
theorem passes_blanks (hq : IsQuote q.quote) {w : Text} (hw : ∀ c ∈ w, Text.isBlank c = true) :
    Passes (some q) w [] (some q) := by
  induction w with
  | nil => exact .done
  | cons c w ih =>
    obtain ⟨hc, hw⟩ := List.forall_mem_cons.mp hw
    refine .step (p := [c]) (.inside ?_ fun hmark => ?_) (ih hw)
    · rintro rfl
      exact absurd hc (by decide)
    · have hfirst : c = q.quote := by
        unfold Quotation.mark at hmark
        split at hmark <;> exact (List.cons_prefix_cons.mp hmark).1.symm
      rw [hfirst, hq.isBlank_eq] at hc
      cases hc

theorem Quotation.eq_of_mem_mark (h : c ∈ q.mark) : c = q.quote :=
  List.eq_of_mem_replicate h

theorem Piece.eq_of_blanks (h : Piece s p rest s') (hopen : s ≠ none)
    (hp : ∀ c ∈ p, Text.isBlank c = true) : s' = s := by
  cases h with
  | plain => exact absurd rfl hopen
  | opening => exact absurd rfl hopen
  | escape => rfl
  | @closing q _ hq =>
    obtain ⟨c, hc⟩ := List.exists_mem_of_ne_nil _ q.mark_ne_nil
    have hblank := hp c hc
    rw [Quotation.eq_of_mem_mark hc, hq.isBlank_eq] at hblank
    cases hblank
  | inside => rfl

theorem Passes.eq_of_blanks (h : Passes s t rest s') (hopen : s ≠ none)
    (ht : ∀ c ∈ t, Text.isBlank c = true) : s' = s := by
  induction h with
  | done => rfl
  | step h _ ih =>
    obtain ⟨hp, ht⟩ := List.forall_mem_append.mp ht
    obtain rfl := h.eq_of_blanks hopen hp
    exact ih hopen ht

/-- Of the pieces with a blank in the second part of them, only an escape has a first part. -/
theorem Piece.eq_of_append {v : Text} (h : Piece s (t ++ v) rest s') (ht : t ≠ []) (hv : v ≠ [])
    (hblank : ∀ c ∈ v, Text.isBlank c = true) : t = ['\\'] ∧ s ≠ none ∧ s' = s := by
  have hpos := List.length_pos_iff.mpr ht
  have hpos' := List.length_pos_iff.mpr hv
  have hquote {q : Quotation} (hq : IsQuote q.quote) (h : t ++ v = q.mark) : False := by
    obtain ⟨c, hc⟩ := List.exists_mem_of_ne_nil v hv
    have hb := hblank c hc
    have hmem : c ∈ q.mark := h ▸ List.mem_append_right t hc
    rw [Quotation.eq_of_mem_mark hmem, hq.isBlank_eq] at hb
    cases hb
  generalize htv : t ++ v = p at h
  have hlength := congrArg List.length htv
  rw [List.length_append] at hlength
  cases h with
  | plain =>
    rw [List.length_singleton] at hlength
    omega
  | opening hq => exact (hquote hq htv).elim
  | escape =>
    obtain ⟨c, t, rfl⟩ := List.exists_cons_of_ne_nil ht
    obtain ⟨d, v, rfl⟩ := List.exists_cons_of_ne_nil hv
    have hnil : t = [] := by
      rw [← List.length_eq_zero_iff]
      simp only [List.length_cons, List.length_nil] at hlength
      omega
    subst hnil
    obtain ⟨rfl, -⟩ := List.cons.inj htv
    exact ⟨rfl, Option.some_ne_none _, rfl⟩
  | closing hq => exact (hquote hq htv).elim
  | inside =>
    rw [List.length_singleton] at hlength
    omega

/-- Without the blanks at its end, a part of a line is passed over as well, unless the first of them
was escaped. -/
theorem Passes.strip {w : Text} (h : Passes s (t ++ w) rest s') (hs : Proper s)
    (hw : ∀ c ∈ w, Text.isBlank c = true) :
    (∃ s₁, Passes s t [] s₁)
      ∨ w ≠ [] ∧ s' ≠ none ∧ ∃ u, t = u ++ ['\\'] ∧ Passes s u ['\\'] s' := by
  generalize htw : t ++ w = tw at h
  induction h generalizing t with
  | @done s rest =>
    obtain ⟨rfl, -⟩ := List.append_eq_nil_iff.mp htw
    exact .inl ⟨s, .done⟩
  | @step s s₁ s₂ p u rest h hu ih =>
    obtain ⟨v, rfl, rfl⟩ | ⟨v, rfl, rfl⟩ := List.append_eq_append_iff.mp htw
    · -- The blanks start within the piece, or with it, or right after it.
      obtain ⟨hv, hu'⟩ := List.forall_mem_append.mp hw
      by_cases ht : t = []
      · subst ht
        exact .inl ⟨s, .done⟩
      by_cases hne : v = []
      · subst hne
        rw [List.append_nil] at h
        have hpiece : Piece s t ([] ++ []) s₁ := h.of_rest (t := []) hs plainly_nil
        rw [← List.append_nil t]
        exact .inl ⟨s₁, .step hpiece .done⟩
      obtain ⟨rfl, hopen, rfl⟩ := h.eq_of_append ht hne hv
      obtain rfl := hu.eq_of_blanks hopen hu'
      exact .inr ⟨by simp [hne], hopen, [], rfl, .done⟩
    · obtain ⟨s₃, hv⟩ | ⟨hne, hopen, u, rfl, hpasses⟩ := ih (h.proper hs) rfl
      · rw [List.append_assoc] at h
        exact .inl ⟨s₃, .step (h.of_rest hs plainly_nil) hv⟩
      · refine .inr ⟨hne, hopen, p ++ u, (List.append_assoc ..).symm, .step ?_ hpasses⟩
        rw [List.append_assoc, List.append_assoc] at h
        exact h.of_rest hs (plainly_backslash [])

end

/-! ## One line -/

theorem proper_none : Proper none := by
  rintro _ ⟨⟩

/-- What is left of a line whose backslash escapes nothing. -/
theorem Dangles.uncommentedLine_eq {line : Text} (h : Dangles line) :
    uncommentedLine line = line ++ ['\\'] := by
  obtain ⟨t, q, rfl, hpasses⟩ := h
  rw [uncommentedLine, hpasses.uncommented_eq]
  have hback : uncommentedFrom (some q) 0 ['\\'] = ['\\', '\\'] := by simp [uncommentedFrom]
  rw [hback, List.append_assoc]
  exact Text.stripRight_eq_self (by simp) (by decide : Text.isBlank '\\' = false)

/-- A line is cut before its comment or at its end. -/
theorem uncommentedLine_cases (line : Text) :
    Dangles line ∨ ∃ t rest s, line = t ++ rest ∧ Passes none t rest s
      ∧ (rest = [] ∨ s = none) ∧ uncommentedLine line = Text.stripRight t := by
  obtain ⟨t, rest, s, rfl, hpasses, hend⟩ := exists_passes none proper_none line
  cases hend with
  | line =>
    refine .inr ⟨t, [], s, rfl, hpasses, .inl rfl, ?_⟩
    rw [uncommentedLine, hpasses.uncommented_eq, uncommentedFrom, List.append_nil]
  | @comment u =>
    refine .inr ⟨t, _, none, rfl, hpasses, .inr rfl, ?_⟩
    rw [uncommentedLine, hpasses.uncommented_eq, uncommentedFrom]
    simp
  | @backslash q => exact .inl ⟨t, q, rfl, hpasses⟩

theorem uncommentedLine_prefix_iff (line : Text) :
    uncommentedLine line <+: line ↔ ¬ Dangles line := by
  constructor
  · intro hprefix hdangles
    have hle := hprefix.length_le
    rw [hdangles.uncommentedLine_eq, List.length_append, List.length_singleton] at hle
    omega
  · intro hnot
    obtain ⟨t, rest, s, rfl, -, -, hline⟩ := (uncommentedLine_cases line).resolve_left hnot
    rw [hline]
    exact (isPrefix_stripRight t).trans (List.prefix_append t rest)

theorem uncommentedLine_of_passes {line : Text} {s : Option Quotation}
    (h : Passes none line [] s) : uncommentedLine line = Text.stripRight line := by
  have hwhole := h.uncommented_eq
  rw [List.append_nil, uncommentedFrom, List.append_nil] at hwhole
  rw [uncommentedLine, hwhole]

/-- With a character after it, the backslash escapes that and the string stays open. -/
theorem Dangles.passes_append {line w : Text} (h : Dangles line) (c : Char)
    (hw : ∀ c ∈ w, Text.isBlank c = true) : ∃ s, Passes none (line ++ c :: w) [] s := by
  obtain ⟨t, q, rfl, hpasses⟩ := h
  have hq := hpasses.proper proper_none q rfl
  have hescape : Passes (some q) (['\\', c] ++ w) [] (some q) :=
    .step .escape (passes_blanks hq hw)
  have hlead := hpasses.of_rest proper_none (plainly_backslash (c :: w))
  refine ⟨some q, ?_⟩
  rw [List.append_assoc]
  rw [← List.append_nil ('\\' :: c :: w)] at hlead
  exact hlead.trans hescape

theorem uncommentedLine_idem_iff (line : Text) :
    uncommentedLine (uncommentedLine line) = uncommentedLine line
      ↔ (Dangles (Text.stripRight line) → Text.stripRight line = line) := by
  constructor
  · intro hidem hdangles
    obtain ⟨w, hline, hw⟩ := exists_blanks line
    cases w with
    | nil => rw [List.append_nil] at hline; exact hline.symm
    | cons c w =>
      -- The first run cuts the blanks off, and the second one doubles the backslash.
      obtain ⟨s, hpasses⟩ := hdangles.passes_append c (List.forall_mem_cons.mp hw).2
      rw [← hline] at hpasses
      rw [uncommentedLine_of_passes hpasses, hdangles.uncommentedLine_eq] at hidem
      simp at hidem
  · intro hcut
    obtain hdangles | ⟨t, rest, s, rfl, hpasses, hend, hleft⟩ := uncommentedLine_cases line
    · obtain ⟨s, hpasses⟩ := hdangles.passes_append '\\' (List.forall_mem_nil _)
      rw [hdangles.uncommentedLine_eq, uncommentedLine_of_passes hpasses]
      exact Text.stripRight_eq_self List.getLast?_concat (by decide)
    · obtain ⟨w, ht, hw⟩ := exists_blanks t
      rw [hleft]
      have hstrip := hpasses
      rw [ht] at hstrip
      obtain ⟨s₁, hshort⟩ | ⟨hne, hopen, u, hu, hback⟩ := hstrip.strip proper_none hw
      · rw [uncommentedLine_of_passes hshort]
        exact List.rdropWhile_idempotent ..
      · -- Blanks follow the backslash in an open string, so there is no comment after them.
        obtain rfl := hend.resolve_right hopen
        rw [List.append_nil] at hcut
        obtain ⟨q, rfl⟩ := Option.ne_none_iff_exists'.mp hopen
        have hsame := hcut ⟨u, q, hu, hback⟩
        rw [hsame] at ht
        exact absurd (List.self_eq_append_right.mp ht) hne

/-! ## Sources -/

/-- Taking out the comments leaves as many lines as there are. A line is only cut, unless it ends
inside of a string with a backslash that has nothing to escape: that backslash is doubled. So doing
it again changes nothing, unless a line comes to end in this way by having its blanks cut off. -/
theorem uncommented_cuts_iff (source : Text) :
    (Text.lines (uncommented source)).length = (Text.lines source).length
      ∧ List.Forall₂ (fun line left => left <+: line ↔ ¬ Dangles line) (Text.lines source)
        (Text.lines (uncommented source))
      ∧ (uncommented (uncommented source) = uncommented source
        ↔ ∀ line ∈ Text.lines source,
          Dangles (Text.stripRight line) → Text.stripRight line = line) := by
  rw [lines_uncommented]
  refine ⟨List.length_map .., ?_, ?_⟩
  · rw [List.forall₂_map_right_iff, List.forall₂_same]
    exact fun line _ => uncommentedLine_prefix_iff line
  · rw [← (Function.LeftInverse.injective Text.unlines_lines).eq_iff, lines_uncommented,
      lines_uncommented, List.map_map, List.map_inj_left]
    exact forall₂_congr fun line _ => uncommentedLine_idem_iff line

/-- A string that is not closed. -/
def unclosed : Text :=
  "\"\\"

theorem uncommented_doubles :
    ¬ List.Forall₂ (fun line left => left <+: line) (Text.lines unclosed)
        (Text.lines (uncommented unclosed))
      ∧ uncommented (uncommented (unclosed ++ [' '])) ≠ uncommented (unclosed ++ [' ']) := by
  have hlines : Text.lines unclosed = [unclosed] := by decide +kernel
  have hleft : Text.lines (uncommented unclosed) = [unclosed ++ ['\\']] := by decide +kernel
  refine ⟨fun h => ?_, by decide +kernel⟩
  rw [hlines, hleft, List.forall₂_cons] at h
  have hle := h.1.length_le
  rw [List.length_append, List.length_singleton] at hle
  omega

end CodeReview.Source
