import CodeReview.Proofs.Trimming
import CodeReview.Proofs.Layout.Statement

/-!
# Two scanners within a line

A text and the same text without its comments are scanned side by side. The second scanner stands
still while the first one goes over blanks and a comment at the end of a line; otherwise both read
the same token, and only line ends and indentation can stand at other columns.

`InLine` and `AtLine` say where the two scanners stand, and `Follows` what a run of the first one
means for the second. A step of the first scanner is matched case by case: each case lemma moves the
places on and leaves the rest to the induction hypothesis about the run.
-/

namespace CodeReview.Source

open Token

/-! ## Texts of lines -/

/-- Lines with a line feed after each. -/
def ends (ls : List Text) : Text :=
  ls.flatMap (· ++ ['\n'])

theorem ends_cons (l : Text) (ls : List Text) : ends (l :: ls) = l ++ '\n' :: ends ls := by
  simp [ends]

theorem ends_append (ls ls' : List Text) : ends (ls ++ ls') = ends ls ++ ends ls' :=
  List.flatMap_append

theorem ends_ne_nil {ls : List Text} (h : ls ≠ []) : ends ls ≠ [] := by
  obtain ⟨l, ls, rfl⟩ := List.exists_cons_of_ne_nil h
  rw [ends_cons]
  exact List.append_ne_nil_of_right_ne_nil _ (List.cons_ne_nil _ _)

theorem ends_drop {ls : List Text} {i : Nat} {l : Text} (h : ls[i]? = some l) :
    ends (ls.drop i) = l ++ '\n' :: ends (ls.drop (i + 1)) := by
  obtain ⟨hi, rfl⟩ := List.getElem?_eq_some_iff.mp h
  rw [List.drop_eq_getElem_cons hi, ends_cons]

theorem ends_drop_ne_nil {ls : List Text} {i : Nat} (hi : i < ls.length) : ends (ls.drop i) ≠ [] :=
  ends_ne_nil (List.ne_nil_of_length_pos (by rw [List.length_drop]; omega))

theorem ends_drop_suffix (ls : List Text) (i : Nat) : ends (ls.drop i) <:+ ends ls := by
  refine ⟨ends (ls.take i), ?_⟩
  rw [← ends_append, List.take_append_drop]

theorem exists_lines_of_free {x p r : Text} {us : List Text} (hx : '\n' ∉ x) (hp : '\n' ∉ p)
    (h : x ++ '\n' :: ends us = p ++ r) :
    ∃ x', r = x' ++ '\n' :: ends (us.drop (breaks p)) ∧ '\n' ∉ x' ∧
      ∀ vs, vs.take (breaks p) = us.take (breaks p) →
        x ++ '\n' :: ends vs = p ++ (x' ++ '\n' :: ends (vs.drop (breaks p))) := by
  obtain ⟨x', rfl, rfl⟩ := exists_of_append_eq hp h
  rw [breaks_eq_zero_iff.mpr hp]
  exact ⟨x', rfl, fun hmem => hx (List.mem_append_right _ hmem), fun vs _ => by simp⟩

/-- A part of a text that does not end with a line feed ends within a line. The same part is at the
start of every text with the same lines up to there. -/
theorem exists_lines {x p r : Text} {us : List Text} (hx : '\n' ∉ x) (hus : ∀ u ∈ us, '\n' ∉ u)
    (hlast : p.getLast? ≠ some '\n') (h : x ++ '\n' :: ends us = p ++ r) :
    ∃ x', r = x' ++ '\n' :: ends (us.drop (breaks p)) ∧ '\n' ∉ x' ∧
      ∀ vs, vs.take (breaks p) = us.take (breaks p) →
        x ++ '\n' :: ends vs = p ++ (x' ++ '\n' :: ends (vs.drop (breaks p))) := by
  induction us generalizing x p with
  | nil =>
    by_cases hfree : '\n' ∈ p
    · obtain ⟨p', rfl, htail⟩ := exists_of_append_eq_of_mem hx hfree h
      rw [(List.append_eq_nil_iff.mp htail.symm).1] at hlast
      exact absurd List.getLast?_concat hlast
    · exact exists_lines_of_free hx hfree h
  | cons u us ih =>
    by_cases hfree : '\n' ∈ p
    · obtain ⟨p', rfl, htail⟩ := exists_of_append_eq_of_mem hx hfree h
      have hbreaks : breaks (x ++ '\n' :: p') = breaks p' + 1 := by
        rw [breaks_append, breaks_cons, breaks_eq_zero_iff.mpr hx, if_pos rfl, Nat.zero_add]
      obtain ⟨hu, hus⟩ := List.forall_mem_cons.mp hus
      rw [ends_cons] at htail
      have hlast' : p'.getLast? ≠ some '\n' := by
        intro heq
        apply hlast
        rw [List.getLast?_append, List.getLast?_cons, heq]
        rfl
      obtain ⟨x', hr, hx', hsame⟩ := ih hu hus hlast' htail
      refine ⟨x', by rw [hbreaks]; exact hr, hx', fun vs hvs => ?_⟩
      rw [hbreaks] at hvs ⊢
      cases vs with
      | nil => cases hvs
      | cons v vs =>
        rw [List.take_succ_cons, List.take_succ_cons, List.cons.injEq] at hvs
        rw [hvs.1, ends_cons, hsame vs hvs.2]
        simp
    · exact exists_lines_of_free hx hfree h

/-! ## Places on the same line -/

namespace Token

section

variable {c c' : Cursor} {p r r' : Text}

/-- Behind the same part of two texts. -/
theorem past_col (hline : c.line = c'.line) (hcol : c.col = c'.col) (hr : r ≠ []) (hr' : r' ≠ []) :
    (c.past p r).col = (c'.past p r').col := by
  simp only [Cursor.past, hline, hcol, List.isEmpty_eq_false_iff.mpr hr,
    List.isEmpty_eq_false_iff.mpr hr', Bool.false_and, Bool.false_eq_true, if_false]

/-- Behind a line feed a new line starts, if the text goes on. -/
theorem past_break (hp : '\n' ∉ p) (hr : r ≠ []) (c : Cursor) :
    c.past (p ++ ['\n']) r = { rest := r, line := c.line + 1, col := 0 } := by
  have hfold (line col : Nat) : (p.foldl (fun (p : Nat × Nat) ch =>
      if ch = '\n' then (p.1 + 1, 0) else (p.1, p.2 + ch.utf8Size)) (line, col)).1 = line := by
    rw [breaks_foldl, breaks_eq_zero_iff.mpr hp]
    rfl
  unfold Cursor.past
  simp [hr, hfold]

end

/-! ## Two texts -/

/-- The lines of a text, and those of the same text without comments. The second one has no last
line if that is empty. -/
structure Stripped (A B : List Text) : Prop where
  free : ∀ a ∈ A, '\n' ∉ a
  line : ∀ (i : Nat) (a : Text), A[i]? = some a → ∃ cr, Returns cr ∧ B[i]?.getD [] = trimmed cr a
  le : B.length ≤ A.length
  last : B.length < A.length → ¬ ['\\', '\n'] <:+ ends B

/-- The places of two scanners at the start of a line. -/
structure AtLine (A B : List Text) (i : Nat) (c c' : Cursor) : Prop where
  rest : c.rest = ends (A.drop i)
  rest' : c'.rest = ends (B.drop i)
  start : i < A.length → c.line = i + 1 ∧ c.col = 0
  start' : i < B.length → c'.line = i + 1 ∧ c'.col = 0

/-- The places of two scanners within a line, with `x` and `y` left of it. -/
structure InLine (A B : List Text) (i : Nat) (cr x y : Text) (c c' : Cursor) : Prop where
  rest : c.rest = x ++ '\n' :: ends (A.drop (i + 1))
  rest' : c'.rest = y ++ '\n' :: ends (B.drop (i + 1))
  line : c.line = i + 1
  line' : c'.line = i + 1
  /-- The second scanner may have stopped before blanks that the first one went over. -/
  col : y ≠ [] → c.col = c'.col
  free : '\n' ∉ x
  returns : Returns cr
  /-- A line is not cut if a string that started before ends on it. -/
  cut : y = x ∨ y = trimmed cr x
  kept : B[i]? = A[i]? → y = x
  suffix : c'.rest <:+ ends B

section

variable {A B : List Text} {i : Nat} {cr p x y : Text} {c c' : Cursor}

/-- A part of the line that is not cut off is in both. -/
theorem exists_cut (hcut : y = p ++ x ∨ y = trimmed cr (p ++ x))
    (hp : trimmed cr (p ++ x) = p ++ trimmed cr x) :
    ∃ y', y = p ++ y' ∧ (y' = x ∨ y' = trimmed cr x) := by
  rw [hp] at hcut
  obtain rfl | rfl := hcut
  · exact ⟨x, rfl, .inl rfl⟩
  · exact ⟨_, rfl, .inr rfl⟩

/-- Both scanners go over a part of the line. -/
theorem InLine.past (h : InLine A B i cr (p ++ x) (p ++ y) c c') (hp : p ≠ [])
    (hcut : y = x ∨ y = trimmed cr x) :
    InLine A B i cr x y (c.past p (x ++ '\n' :: ends (A.drop (i + 1))))
      (c'.past p (y ++ '\n' :: ends (B.drop (i + 1)))) := by
  have hfree : '\n' ∉ p := fun hmem => h.free (List.mem_append_left _ hmem)
  have hsuffix : y ++ '\n' :: ends (B.drop (i + 1)) <:+ c'.rest :=
    ⟨p, by rw [h.rest', List.append_assoc]⟩
  exact {
    rest := past_rest ..
    rest' := past_rest ..
    line := by rw [past_line_of_free hfree, h.line]
    line' := by rw [past_line_of_free hfree, h.line']
    col := fun _ => by
      have hcol := h.col (List.append_ne_nil_of_left_ne_nil hp y)
      exact past_col (h.line.trans h.line'.symm) hcol (by simp) (by simp)
    free := fun hmem => h.free (List.mem_append_right _ hmem)
    returns := h.returns
    cut := hcut
    kept := fun hkept => List.append_cancel_left (h.kept hkept)
    suffix := by
      rw [past_rest]
      exact hsuffix.trans h.suffix }

/-- The second scanner has reached the end of the line, the first one goes over blanks or a
comment. -/
theorem InLine.wait (h : InLine A B i cr (p ++ x) [] c c') (hx : Idle x) :
    InLine A B i cr x [] (c.past p (x ++ '\n' :: ends (A.drop (i + 1)))) c' := by
  have hfree : '\n' ∉ p := fun hmem => h.free (List.mem_append_left _ hmem)
  exact { h with
    rest := past_rest ..
    line := by rw [past_line_of_free hfree, h.line]
    col := fun hne => absurd rfl hne
    free := fun hmem => h.free (List.mem_append_right _ hmem)
    cut := .inr (hx.trimmed_eq h.returns).symm
    kept := fun hkept => (List.append_eq_nil_iff.mp (h.kept hkept).symm).2.symm }

/-- Both scanners go over the end of a line. -/
theorem AtLine.past {p' : Text} (hp : '\n' ∉ p) (hp' : '\n' ∉ p') (hline : c.line = i + 1)
    (hline' : c'.line = i + 1) :
    AtLine A B (i + 1) (c.past (p ++ ['\n']) (ends (A.drop (i + 1))))
      (c'.past (p' ++ ['\n']) (ends (B.drop (i + 1)))) := by
  refine ⟨past_rest .., past_rest .., fun hi => ?_, fun hi => ?_⟩
  · rw [past_break hp (ends_drop_ne_nil hi), hline]
    exact ⟨rfl, rfl⟩
  · rw [past_break hp' (ends_drop_ne_nil hi), hline']
    exact ⟨rfl, rfl⟩

/-- The second text ends before a line that has nothing but a comment. -/
theorem AtLine.wait (h : AtLine A B i c c') (hi : B.length ≤ i) {d : Cursor} (hp : '\n' ∉ p)
    (hline : d.line = i + 1) :
    AtLine A B (i + 1) (d.past (p ++ ['\n']) (ends (A.drop (i + 1)))) c' := by
  refine ⟨past_rest .., ?_, fun hi => ?_, fun hi => by omega⟩
  · rw [h.rest', List.drop_eq_nil_of_le hi, List.drop_eq_nil_of_le (by omega)]
  · rw [past_break hp (ends_drop_ne_nil hi), hline]
    exact ⟨rfl, rfl⟩

/-- A line that is continued is not the last one of the second text. -/
theorem Stripped.lt_length (h : Stripped A B) (hi : i < A.length)
    (hsuffix : '\\' :: '\n' :: ends (B.drop i) <:+ ends B) : i < B.length := by
  by_contra hnot
  rw [List.drop_eq_nil_of_le (by omega)] at hsuffix
  exact h.last (by omega) hsuffix

/-- Both scanners are at the start of a line of both texts. -/
theorem Stripped.inLine (h : Stripped A B) (hi : i < B.length) (hrest : c.rest = ends (A.drop i))
    (hrest' : c'.rest = ends (B.drop i)) (hline : c.line = i + 1) (hline' : c'.line = i + 1)
    (hcol : c.col = c'.col) : ∃ cr x, A[i]? = some x ∧ InLine A B i cr x (trimmed cr x) c c' := by
  have hle := h.le
  obtain ⟨x, hx⟩ : ∃ x, A[i]? = some x :=
    ⟨_, List.getElem?_eq_getElem (by omega : i < A.length)⟩
  obtain ⟨y, hy⟩ : ∃ y, B[i]? = some y := ⟨_, List.getElem?_eq_getElem hi⟩
  obtain ⟨cr, hcr, htrim⟩ := h.line i x hx
  rw [hy, Option.getD_some] at htrim
  subst htrim
  refine ⟨cr, x, hx, ?_⟩
  exact {
    rest := by rw [hrest, ends_drop hx]
    rest' := by rw [hrest', ends_drop hy]
    line := hline
    line' := hline'
    col := fun _ => hcol
    free := h.free x (List.mem_of_getElem? hx)
    returns := hcr
    cut := .inr rfl
    kept := fun hkept => Option.some.inj (by rw [← hy, hkept, hx])
    suffix := by
      rw [hrest']
      exact ends_drop_suffix B i }

/-- Both scanners go over a backslash to the next line. -/
theorem InLine.continued (h : InLine A B i cr ['\\'] ['\\'] c c') (hstripped : Stripped A B)
    (hi : i + 1 < A.length) :
    i + 1 < B.length ∧ ∃ cr x y, InLine A B (i + 1) cr x y
      (c.past ['\\', '\n'] (ends (A.drop (i + 1))))
      (c'.past ['\\', '\n'] (ends (B.drop (i + 1)))) := by
  have hsuffix := h.suffix
  rw [h.rest'] at hsuffix
  have hi' : i + 1 < B.length := hstripped.lt_length hi hsuffix
  have hfree : '\n' ∉ ['\\'] := by decide
  have hpast := past_break hfree (ends_drop_ne_nil hi) c
  have hpast' := past_break hfree (ends_drop_ne_nil hi') c'
  rw [List.singleton_append] at hpast hpast'
  obtain ⟨cr, x, -, hin⟩ := hstripped.inLine hi' (past_rest c ['\\', '\n'] _)
    (past_rest c' ['\\', '\n'] _) (by rw [hpast, h.line]) (by rw [hpast', h.line'])
    (by rw [hpast, hpast'])
  exact ⟨hi', cr, x, _, hin⟩

/-- Both scanners go over a string that ends on a later line, all of whose lines are kept. -/
theorem InLine.string (h : InLine A B i cr x y c c') (hstripped : Stripped A B) {t r : Text}
    (hlast : t.getLast? ≠ some '\n') (e : c.rest = t ++ r) (hy : y ≠ [])
    (hkept : ∀ k, i ≤ k → k ≤ i + breaks t → B[k]? = A[k]?) :
    ∃ x' r', c'.rest = t ++ r' ∧ r'.head? = r.head? ∧
      InLine A B (i + breaks t) [] x' x' (c.past t r) (c'.past t r') := by
  obtain rfl := h.kept (hkept i (Nat.le_refl i) (Nat.le_add_right i _))
  have hus : ∀ u ∈ A.drop (i + 1), '\n' ∉ u := fun u hu =>
    hstripped.free u (List.mem_of_mem_drop hu)
  obtain ⟨x', hr, hx', hsame⟩ := exists_lines h.free hus hlast (h.rest.symm.trans e)
  have htake : (B.drop (i + 1)).take (breaks t) = (A.drop (i + 1)).take (breaks t) := by
    apply List.ext_getElem?
    intro k
    rw [List.getElem?_take, List.getElem?_take]
    split
    · rw [List.getElem?_drop, List.getElem?_drop]
      exact hkept _ (by omega) (by omega)
    · rfl
  have hrest' := hsame _ htake
  rw [List.drop_drop, ← Nat.add_right_comm] at hr hrest'
  rw [hr]
  refine ⟨x', _, h.rest'.trans hrest', by cases x' <;> rfl, ?_⟩
  exact {
    rest := past_rest ..
    rest' := past_rest ..
    line := by rw [past_line_of_last hlast, h.line, Nat.add_right_comm]
    line' := by rw [past_line_of_last hlast, h.line', Nat.add_right_comm]
    col := fun _ => past_col (h.line.trans h.line'.symm) (h.col hy) (by simp) (by simp)
    free := hx'
    returns := .inl rfl
    cut := .inl rfl
    kept := fun _ => rfl
    suffix := by
      rw [past_rest]
      have hsuffix := h.suffix
      rw [h.rest', hrest'] at hsuffix
      exact (List.suffix_append ..).trans hsuffix }

end

/-! ## Two scanners -/

namespace Scanner

/-- Two scanners with the same brackets, levels and tokens, up to the places of layout. -/
structure Alike (s s' : Scanner) : Prop where
  brackets : s.brackets = s'.brackets
  levels : s.levels = s'.levels
  found : List.Forall₂ Token.Alike s.found s'.found

/-- The tokens of a text that was scanned to its end, where the lines of each token that goes over
several of them are kept. -/
structure Kept (A B : List Text) (tokens : List Token) : Prop where
  unstopped : Unstopped tokens
  lines : ∀ t ∈ tokens, t.line < t.endLine → ∀ i : Nat, t.line ≤ i + 1 → i < t.endLine →
    B[i]? = A[i]?

/-- Scanning leads to tokens that are alike. -/
def Echoes (tokens : List Token) (next : Next) : Prop :=
  ∃ tokens', Leads next tokens' ∧ List.Forall₂ Token.Alike tokens tokens'

/-- What follows for a second scanner. -/
def Follows (A B : List Text) (tokens : List Token) : Next → Prop
  | .line s => ∀ (s' : Scanner) (i : Nat), AtLine A B i s.here s'.here → s.Alike s' →
    Echoes tokens (.line s')
  | .within s => ∀ (s' : Scanner) (i : Nat) (cr x y : Text), InLine A B i cr x y s.here s'.here →
    s.Alike s' → Echoes tokens (.within s')
  | .done _ => True

section

variable {A B : List Text} {tokens : List Token} {s s' : Scanner} {i : Nat} {cr x y : Text}

theorem Echoes.line (h : Echoes tokens s.scanLine) : Echoes tokens (.line s) := by
  obtain ⟨tokens', hleads, halike⟩ := h
  exact ⟨tokens', .line hleads, halike⟩

theorem Echoes.within (h : Echoes tokens s.scanWithin) : Echoes tokens (.within s) := by
  obtain ⟨tokens', hleads, halike⟩ := h
  exact ⟨tokens', .within hleads, halike⟩

theorem Alike.refl (s : Scanner) : s.Alike s :=
  ⟨rfl, rfl, List.forall₂_same.mpr fun t _ => Token.Alike.refl t⟩

theorem Alike.moved (h : s.Alike s') (c c' : Cursor) :
    { s with here := c }.Alike { s' with here := c' } :=
  ⟨h.brackets, h.levels, h.found⟩

theorem Alike.skip (h : s.Alike s') (p r p' r' : Text) : (s.skip p r).Alike (s'.skip p' r') :=
  ⟨h.brackets, h.levels, h.found⟩

theorem Alike.skip_left (h : s.Alike s') (p r : Text) : (s.skip p r).Alike s' :=
  ⟨h.brackets, h.levels, h.found⟩

theorem Alike.pushMark (h : s.Alike s') {kind : Kind}
    (hkind : ∀ t : Token, t.kind = kind → t.isLayout = true) :
    (s.pushMark kind).Alike (s'.pushMark kind) := by
  refine ⟨h.brackets, h.levels, .cons ⟨rfl, rfl, fun hlayout => ?_⟩ h.found⟩
  rw [hkind _ rfl] at hlayout
  cases hlayout

theorem Alike.pushMarks (h : s.Alike s') {kind : Kind}
    (hkind : ∀ t : Token, t.kind = kind → t.isLayout = true) (n : Nat) :
    (s.pushMarks kind n).Alike (s'.pushMarks kind n) := by
  induction n generalizing s s' with
  | zero => exact h
  | succ n ih => exact ih (h.pushMark hkind)

theorem Alike.withBrackets (h : s.Alike s') (brackets : List Bracket) :
    { s with brackets := brackets }.Alike { s' with brackets := brackets } :=
  ⟨rfl, h.levels, h.found⟩

/-- Both scanners add the same token. -/
theorem Alike.push (h : s.Alike s') {kind : Kind} {p r r' : Text}
    (hline : s.here.line = s'.here.line) (hcol : s.here.col = s'.here.col)
    (hend : (s.here.past p r).line = (s'.here.past p r').line) :
    (s.push kind p r).Alike (s'.push kind p r') := by
  refine ⟨h.brackets, h.levels, .cons ?_ h.found⟩
  simp only [hline, hcol, hend, h.brackets]
  exact Token.Alike.refl _

/-- Only blanks and a comment are cut off a line that is not kept as a whole. -/
theorem Kept.cutIdle (hkept : Kept A B tokens) (h : Leads (.within s) tokens) (hcr : Returns cr)
    {more : Text} (e : s.here.rest = x ++ '\n' :: more) (hfree : '\n' ∉ x)
    (hline : s.here.line = i + 1) : B[i]? = A[i]? ∨ CutIdle cr x := by
  obtain ⟨t, ht, hstart, hlt⟩ | hcut := cutIdle_of_leads hkept.unstopped hcr h e hfree
  · exact .inl (hkept.lines t ht hlt i (by omega) (by omega))
  · exact .inr hcut

theorem Kept.exists_gap (hkept : Kept A B tokens) (h : Leads (.within s) tokens)
    (hin : InLine A B i cr x y s.here s'.here) : ∃ gap, x = y ++ gap ∧ Idle gap := by
  obtain rfl | hcut := hin.cut
  · exact ⟨[], (List.append_nil y).symm, .nil⟩
  obtain hsame | hidle := hkept.cutIdle h hin.returns hin.rest hin.free hin.line
  · rw [hin.kept hsame]
    exact ⟨[], (List.append_nil x).symm, .nil⟩
  · rw [hcut]
    exact hidle

/-! ### Steps within a line -/

theorem Alike.markBreak (h : s.Alike s') : s.markBreak.Alike s'.markBreak := by
  unfold Scanner.markBreak
  rw [h.brackets]
  split
  · exact h.pushMark fun t ht => by simp [Token.isLayout, Token.isNewline, ht]
  · exact h

section Step

variable (ih : Follows A B tokens s.scanWithin) (hin : InLine A B i cr x y s.here s'.here)
  (halike : s.Alike s')
include ih hin halike

/-- The second scanner has reached the end of the line. -/
theorem echoes_of_idle (hx : Idle x) (hy : y = []) : Echoes tokens (.within s') := by
  have hfree := hin.free
  subst hy
  cases hx with
  | nil =>
    have hat : AtLine A B (i + 1) (s.here.past ['\n'] (ends (A.drop (i + 1))))
        (s'.here.past ['\n'] (ends (B.drop (i + 1)))) :=
      AtLine.past (p := []) hfree hfree hin.line hin.line'
    rw [scanWithin_break hin.rest] at ih
    refine .within ?_
    rw [scanWithin_break hin.rest']
    exact ih _ (i + 1) (by rw [skip, skip, markBreak_here, markBreak_here]; exact hat)
      (halike.markBreak.skip ..)
  | comment t =>
    rw [scanWithin_comment hin.rest (List.not_mem_of_not_mem_cons hfree)] at ih
    rw [← List.append_nil ('#' :: t)] at hin
    exact ih s' i cr [] [] (hin.wait .nil) (halike.skip_left ..)
  | @blank c t hc h =>
    obtain ⟨w, r, hsplit, hne, hall, hr⟩ := Source.exists_gap rfl hc
    rw [hsplit] at hin
    have e : s.here.rest = w ++ (r ++ '\n' :: ends (A.drop (i + 1))) := by
      rw [hin.rest, List.append_assoc]
    rw [scanWithin_gap e hall hne (any_isGap_append hr _)] at ih
    have hidle : Idle (w ++ r) := hsplit ▸ .blank hc h
    exact ih s' i cr r [] (hin.wait (hidle.of_append hall)) (halike.skip_left ..)

/-- Both scanners are before blanks. -/
theorem echoes_of_gap {c : Char} {rest gap : Text} (hgap : x = y ++ gap) (hy : y = c :: rest)
    (hc : isGap c = true) : Echoes tokens (.within s') := by
  obtain ⟨w, r, hsplit, hne, hall, hr⟩ := Source.exists_gap hy hc
  obtain ⟨hr', hcut⟩ : (r ++ gap).head?.any isGap = false
      ∧ (r = r ++ gap ∨ r = trimmed cr (r ++ gap)) := by
    obtain hsame | hcut := hin.cut
    · rw [hgap, List.self_eq_append_right] at hsame
      rw [hsame, List.append_nil]
      exact ⟨hr, .inl rfl⟩
    · -- Blanks are kept before something else only.
      rw [hgap, hsplit, List.append_assoc, trimmed_gap hall] at hcut
      split at hcut
      · exact absurd (List.append_eq_nil_iff.mp hcut).1 hne
      · next hne' =>
        have hrest := List.append_cancel_left hcut
        rw [← hrest] at hne'
        obtain ⟨d, r, rfl⟩ := List.exists_cons_of_ne_nil hne'
        exact ⟨hr, .inr hrest⟩
  have e : s.here.rest = w ++ (r ++ gap ++ '\n' :: ends (A.drop (i + 1))) := by
    rw [hin.rest, hgap, hsplit, List.append_assoc, List.append_assoc, List.append_assoc]
  have e' : s'.here.rest = w ++ (r ++ '\n' :: ends (B.drop (i + 1))) := by
    rw [hin.rest', hsplit, List.append_assoc]
  rw [scanWithin_gap e hall hne (any_isGap_append hr' _)] at ih
  refine .within ?_
  rw [scanWithin_gap e' hall hne (any_isGap_append hr _)]
  rw [hgap, hsplit, List.append_assoc] at hin
  exact ih _ i cr _ _ (hin.past hne hcut) (halike.skip ..)

/-- Both scanners are before a comment. -/
theorem echoes_of_comment {rest : Text} (hx : x = '#' :: rest) (hy : y = x) :
    Echoes tokens (.within s') := by
  subst hy hx
  have hfree := List.not_mem_of_not_mem_cons hin.free
  rw [scanWithin_comment hin.rest hfree] at ih
  refine .within ?_
  rw [scanWithin_comment hin.rest' hfree]
  rw [← List.append_nil ('#' :: rest)] at hin
  exact ih _ i cr [] [] (hin.past (List.cons_ne_nil _ _) (.inl rfl)) (halike.skip ..)

/-- Both scanners are before a backslash. -/
theorem echoes_of_backslash (hstripped : Stripped A B) (hkept : Kept A B tokens)
    (h : Leads s.scanWithin tokens) {rest gap : Text} (hgap : x = y ++ gap)
    (hy : y = '\\' :: rest) : Echoes tokens (.within s') := by
  have e : s.here.rest = '\\' :: (rest ++ gap ++ '\n' :: ends (A.drop (i + 1))) := by
    rw [hin.rest, hgap, hy]
    rfl
  have hstop (hbad : rest ++ gap ++ '\n' :: ends (A.drop (i + 1)) = ['\n']
      ∨ (rest ++ gap ++ '\n' :: ends (A.drop (i + 1))).head? ≠ some '\n') : False := by
    obtain ⟨fault, line, hstep⟩ := scanWithin_backslash e hbad
    exact Leads.not_stopAt hkept.unstopped (hstep ▸ h)
  have hfree : '\n' ∉ rest ++ gap := by
    have hfree := hin.free
    rw [hgap, hy] at hfree
    exact List.not_mem_of_not_mem_cons hfree
  have hnil : rest ++ gap = [] := by
    by_contra hne
    exact hstop (.inr (head?_ne_break hne hfree _))
  obtain ⟨rfl, rfl⟩ := List.append_eq_nil_iff.mp hnil
  have hi : i + 1 < A.length := by
    by_contra hnot
    exact hstop (.inl (by rw [List.drop_eq_nil_of_le (by omega)]; rfl))
  rw [List.append_nil] at hgap
  subst hgap hy
  obtain ⟨hi', cr', x', y', hin'⟩ := hin.continued hstripped hi
  rw [scanWithin_continued e (ends_drop_ne_nil hi)] at ih
  refine .within ?_
  rw [scanWithin_continued hin.rest' (ends_drop_ne_nil hi')]
  exact ih _ (i + 1) cr' x' y' hin' (halike.skip ..)

/-- Both scanners are before a token that is no string. -/
theorem echoes_of_reads {gap taken : Text} {kind : Kind} {brackets : List Bracket}
    (hgap : x = y ++ gap) (hidle : Idle gap) (hreads : Reads s y kind taken brackets) :
    Echoes tokens (.within s') := by
  obtain ⟨r, rfl⟩ := hreads.isPrefix
  rw [List.append_assoc] at hgap
  subst hgap
  have hne := hreads.plain.ne_nil
  have hline : s.here.line = s'.here.line := hin.line.trans hin.line'.symm
  have hcol := hin.col (List.append_ne_nil_of_left_ne_nil hne r)
  obtain ⟨y', hy', hcut⟩ := exists_cut hin.cut (hreads.plain.trimmed_eq cr (r ++ gap))
  obtain rfl := List.append_cancel_left hy'
  have hpast := hin.past hne hcut
  have e : s.here.rest = taken ++ r ++ (gap ++ '\n' :: ends (A.drop (i + 1))) := by
    rw [hin.rest, List.append_assoc, List.append_assoc, List.append_assoc]
  have hstep := hreads.step s _ rfl rfl e (hidle.boundary _)
  rw [List.drop_left, ← List.append_assoc] at hstep
  have hstep' := hreads.step s' _ halike.brackets.symm hline.symm hin.rest' ⟨'\n', by decide, rfl⟩
  rw [List.drop_left] at hstep'
  rw [hstep] at ih
  refine .within ?_
  rw [hstep']
  have hend := hpast.line.trans hpast.line'.symm
  exact ih _ i cr _ _ hpast ((halike.withBrackets brackets).push hline hcol hend)

/-- Both scanners are before a string that ends on a later line. -/
theorem echoes_of_longString (hstripped : Stripped A B) (hkept : Kept A B tokens)
    (h : Leads s.scanWithin tokens) {mark t r : Text} {q : Char} {triple : Bool} (hy : y ≠ [])
    (hopens : Opens mark q) (henc : Encloses q t triple) (hparted : Parted q t r)
    (e : s.here.rest = mark ++ t ++ r) (hbreak : '\n' ∈ mark ++ t) :
    Echoes tokens (.within s') := by
  rw [scanWithin_string hopens henc hparted e] at ih h
  obtain ⟨u, hu, hstart, hend, hlt⟩ := h.exists_long hopens henc hbreak
  have hline := hin.line
  -- The lines of the string are the same in both texts.
  have hsame : ∀ k, i ≤ k → k ≤ i + breaks (mark ++ t) → B[k]? = A[k]? := by
    intro k hk hk'
    exact hkept.lines u hu hlt k (by omega) (by omega)
  obtain ⟨x', r', e', hhead, hin'⟩ :=
    hin.string hstripped (henc.getLast?_ne_break hopens) e hy hsame
  have hparted' : Parted q t r' := fun ht => by rw [hhead]; exact hparted ht
  refine .within ?_
  rw [scanWithin_string hopens henc hparted' e']
  exact ih _ _ _ _ _ hin' (halike.push (hline.trans hin.line'.symm) (hin.col hy)
    (hin'.line.trans hin'.line'.symm))

/-- Both scanners are before a string that ends on the same line. -/
theorem echoes_of_string {gap mark t r : Text} {q : Char} {triple : Bool} (hgap : x = y ++ gap)
    (hy : y ≠ []) (hopens : Opens mark q) (henc : Encloses q t triple) (hparted : Parted q t r)
    (e : s.here.rest = mark ++ t ++ r) (hfree : '\n' ∉ mark ++ t) :
    Echoes tokens (.within s') := by
  rw [scanWithin_string hopens henc hparted e] at ih
  obtain ⟨x', rfl, rfl⟩ := exists_of_append_eq hfree (hin.rest.symm.trans e)
  have htrim := henc.trimmed_eq hopens (hparted.returns hopens.quote hin.returns)
  obtain ⟨y', rfl, hcut⟩ := exists_cut hin.cut htrim
  rw [List.append_assoc (mark ++ t)] at hgap
  have hgap' : x' = y' ++ gap := List.append_cancel_left hgap
  have hparted' : Parted q t (y' ++ '\n' :: ends (B.drop (i + 1))) := by
    intro ht
    cases y' with
    | nil => exact fun hq => hopens.ne_break (Option.some.inj hq).symm
    | cons d y' =>
      have hhead := hparted ht
      rw [hgap'] at hhead
      exact hhead
  have hin' := hin.past (henc.append_ne_nil mark) hcut
  have e' : s'.here.rest = mark ++ t ++ (y' ++ '\n' :: ends (B.drop (i + 1))) := by
    rw [hin.rest', List.append_assoc]
  refine .within ?_
  rw [scanWithin_string hopens henc hparted' e']
  exact ih _ _ _ _ _ hin' (halike.push (hin.line.trans hin.line'.symm) (hin.col hy)
    (hin'.line.trans hin'.line'.symm))

end Step

theorem follows_within (hstripped : Stripped A B) (hkept : Kept A B tokens)
    (h : Leads s.scanWithin tokens) (ih : Follows A B tokens s.scanWithin) :
    Follows A B tokens (.within s) := by
  intro s' i cr x y hin halike
  obtain ⟨gap, hgap, hidle⟩ := hkept.exists_gap (.within h) hin
  cases hy : y with
  | nil =>
    rw [hy, List.nil_append] at hgap
    exact echoes_of_idle ih hin halike (hgap ▸ hidle) hy
  | cons c rest =>
    have hx : x = c :: (rest ++ gap) := by rw [hgap, hy]; rfl
    by_cases hblank : isGap c = true
    · exact echoes_of_gap ih hin halike hgap hy hblank
    by_cases hhash : c = '#'
    · subst hhash
      refine echoes_of_comment ih hin halike hx (hin.cut.resolve_right fun hcut => ?_)
      rw [hx, trimmed_comment, hy] at hcut
      cases hcut
    by_cases hback : c = '\\'
    · subst hback
      exact echoes_of_backslash ih hin halike hstripped hkept h hgap hy
    have hc : c ∉ breakers := not_mem_breakers hblank hhash hback fun hbreak =>
      hin.free (by rw [hx, hbreak]; exact List.mem_cons_self)
    have e : s.here.rest = y ++ (gap ++ '\n' :: ends (A.drop (i + 1))) := by
      rw [hin.rest, hgap, List.append_assoc]
    obtain ⟨kind, taken, brackets, hreads⟩
      | ⟨mark, q, t, triple, r, hopens, henc, hparted, erest⟩ :=
      h.token_cases hkept.unstopped hy hc e (hidle.boundary _)
    · exact echoes_of_reads ih hin halike hgap hidle hreads
    · have hne : y ≠ [] := by rw [hy]; exact List.cons_ne_nil _ _
      by_cases hbreak : '\n' ∈ mark ++ t
      · exact echoes_of_longString ih hin halike hstripped hkept h hne hopens henc hparted erest
          hbreak
      · exact echoes_of_string ih hin halike hgap hne hopens henc hparted erest hbreak

end

end Scanner

end Token

end CodeReview.Source
