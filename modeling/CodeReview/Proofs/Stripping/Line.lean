import CodeReview.Proofs.Stripping.Within

/-!
# Two scanners at the start of a line

A line starts with its indentation, which can go over continued lines. Blank lines and lines with
nothing but a comment lead both scanners to the next line; on any other line nothing before the
first token is cut off, so both find the same indentation there. With the steps within a line this
gives the whole run: the second text is scanned to tokens that are alike.
-/

namespace CodeReview.Source.Token

/-! ## Reading the indentation -/

section

variable {cr x : Text}

/-- Behind its blanks the line is empty or has a comment. -/
def Bare (x : Text) : Prop :=
  x = [] ∨ ∃ t, x = '#' :: t

theorem Bare.idle (h : Bare x) : Idle x := by
  obtain rfl | ⟨t, rfl⟩ := h
  · exact .nil
  · exact .comment t

theorem readMargin_gap {w : Text} (hw : ∀ c ∈ w, isGap c = true) (m : Margin) :
    ∃ m', ∀ line col r, readMargin m line col (w ++ r) = readMargin m' line (col + w.length) r := by
  induction w generalizing m with
  | nil => exact ⟨m, fun _ _ _ => rfl⟩
  | cons c w ih =>
    obtain ⟨hc, hrest⟩ := List.forall_mem_cons.mp hw
    have hlength (col : Nat) : col + (c :: w).length = col + 1 + w.length := by
      rw [List.length_cons]
      omega
    obtain rfl | rfl | rfl := cases_of_isGap hc
    all_goals
      obtain ⟨m', hm'⟩ := ih hrest _
      refine ⟨m', fun line col r => ?_⟩
      rw [hlength, ← hm', List.cons_append, readMargin]

theorem readMargin_of_head {r : Text} (hgap : r.head?.any isGap = false)
    (hback : r.head? ≠ some '\\') (m : Margin) (line col : Nat) :
    readMargin m line col r = .ok (m, { rest := r, line := line, col := col }) := by
  unfold readMargin
  split
  · exact absurd hgap (by simp [isGap])
  · exact absurd hgap (by simp [isGap])
  · exact absurd hgap (by simp [isGap])
  · exact absurd rfl hback
  · exact absurd rfl hback
  · exact absurd rfl hback
  · rfl

theorem Bare.readMargin_eq (h : Bare x) (m : Margin) (line col : Nat) (r : Text) :
    readMargin m line col (x ++ '\n' :: r)
      = .ok (m, { rest := x ++ '\n' :: r, line := line, col := col }) := by
  obtain rfl | ⟨t, rfl⟩ := h
  · exact readMargin_of_head rfl (by simp) m line col
  · exact readMargin_of_head rfl (by simp) m line col

theorem readMargin_continued (m : Margin) :
    ∃ m', ∀ line col r, r ≠ [] →
      readMargin m line col ('\\' :: '\n' :: r) = readMargin m' (line + 1) 0 r := by
  refine ⟨{ m with kept := if m.kept = 0 then m.width else m.kept }, fun line col r hr => ?_⟩
  rw [readMargin]
  exact hr

theorem readMargin_backslash {r : Text} (h : r = ['\n'] ∨ r.head? ≠ some '\n') (m : Margin)
    (line col : Nat) : ∃ e, readMargin m line col ('\\' :: r) = .error e := by
  obtain rfl | h := h
  · exact ⟨_, rfl⟩
  · unfold readMargin
    split
    · next heq => cases heq
    · next heq => cases heq
    · next heq => cases heq
    · exact ⟨_, rfl⟩
    · next heq =>
      cases heq
      exact absurd rfl h
    · exact ⟨_, rfl⟩
    · next hne => exact absurd rfl (hne r)

/-- What a line can start with behind its blanks. -/
theorem cases_of_start (hx : x.head?.any isGap = false) (hfree : '\n' ∉ x) :
    Bare x ∨ (∃ t, x = '\\' :: t)
      ∨ ∃ d t, x = d :: t ∧ d ∉ Scanner.breakers := by
  cases x with
  | nil => exact .inl (.inl rfl)
  | cons d t =>
    by_cases hhash : d = '#'
    · exact .inl (.inr ⟨t, by rw [hhash]⟩)
    by_cases hback : d = '\\'
    · exact .inr (.inl ⟨t, by rw [hback]⟩)
    · refine .inr (.inr ⟨d, t, rfl, not_mem_breakers ?_ hhash hback ?_⟩)
      · simpa using hx
      · rintro rfl
        exact hfree List.mem_cons_self

end

/-! ## Entering a line -/

namespace Scanner

section

variable {s s' : Scanner} {x : Text} {m : Margin} {c : Cursor}

theorem indented_here (s : Scanner) (levels : List (Nat × Nat)) (entered : Bool) (left : Nat) :
    (s.indented levels entered left).here = s.here := by
  obtain ⟨-, -, -, hhere⟩ := exists_indented s levels entered left
  exact hhere

theorem Alike.indented (h : s.Alike s') (levels : List (Nat × Nat)) (entered : Bool) (left : Nat) :
    (s.indented levels entered left).Alike (s'.indented levels entered left) := by
  have hlevels : { s with levels := levels }.Alike { s' with levels := levels } :=
    ⟨h.brackets, rfl, h.found⟩
  unfold Scanner.indented
  split
  · exact hlevels.pushMark fun t ht => by simp [Token.isLayout, Token.isIndent, ht]
  · exact hlevels.pushMarks (fun t ht => by simp [Token.isLayout, Token.isDedent, ht]) left

/-- Both scanners enter a line with the same indentation. -/
theorem enter_cases (h : s.Alike s') (m : Margin) :
    (∃ fault line, s.enter m = .done (s.stopAt fault line false))
      ∨ ∃ t t', s.enter m = .within t ∧ s'.enter m = .within t' ∧ t.here = s.here
        ∧ t'.here = s'.here ∧ t.Alike t' := by
  have hbrackets : s'.brackets.isEmpty = s.brackets.isEmpty := by rw [h.brackets]
  unfold enter
  rw [hbrackets, ← h.levels]
  split
  · exact .inr ⟨s, s', rfl, rfl, rfl, rfl, h⟩
  split
  · exact .inl ⟨_, _, rfl⟩
  · next levels entered left _ =>
    exact .inr ⟨_, _, rfl, rfl, indented_here .., indented_here .., h.indented levels entered left⟩

theorem scanLine_of_error {e : Fault × Nat}
    (hread : readMargin ⟨0, 0, 0⟩ s.here.line s.here.col s.here.rest = .error e) :
    ∃ here fault line eager,
      s.scanLine = .done ({ s with here := here }.stopAt fault line eager) := by
  unfold scanLine
  rw [hread]
  dsimp only
  split
  · exact ⟨s.here, _, _, _, rfl⟩
  · exact ⟨_, _, _, _, rfl⟩

theorem scanLine_of_blank
    (hread : readMargin ⟨0, 0, 0⟩ s.here.line s.here.col s.here.rest = .ok (m, c)) {r : Text}
    (e : c.rest = x ++ '\n' :: r) (hx : Bare x) (hfree : '\n' ∉ x) :
    s.scanLine = .line ({ s with here := c }.skip (x ++ ['\n']) r) := by
  have htake : (x ++ '\n' :: r).takeWhile (fun c => decide (c ≠ '\n')) = x := by
    rw [List.takeWhile_append_of_pos, List.takeWhile_cons_of_neg (by decide), List.append_nil]
    intro c hc
    rw [decide_eq_true_eq]
    exact ne_of_mem_of_not_mem hc hfree
  unfold scanLine
  rw [hread]
  simp only [e, htake, List.drop_left]
  obtain rfl | ⟨t, rfl⟩ := hx
  · rfl
  · rfl

theorem scanLine_of_code
    (hread : readMargin ⟨0, 0, 0⟩ s.here.line s.here.col s.here.rest = .ok (m, c))
    {d : Char} (hhead : c.rest.head? = some d) (hd : d ∉ breakers) :
    s.scanLine = { s with here := c }.enter m := by
  unfold scanLine
  rw [hread]
  dsimp only
  rw [if_neg]
  · rfl
  · split
    · next heq =>
      rw [heq] at hhead
      cases hhead
      exact absurd (by decide) hd
    · next heq =>
      rw [heq] at hhead
      cases hhead
      exact absurd (by decide) hd
    · decide

end

end Scanner

/-! ## The same indentation in both texts -/

section

variable {A B : List Text} {i : Nat} {cr x : Text}

/-- How the indentation of the same line is read in both texts. Where code starts, the second
reading is known as soon as only blanks and a comment are cut off the line. -/
inductive Margins (A B : List Text) :
    Except (Fault × Nat) (Margin × Cursor) → Except (Fault × Nat) (Margin × Cursor) → Prop where
  | error (e : Fault × Nat) (r' : Except (Fault × Nat) (Margin × Cursor)) :
    Margins A B (.error e) r'
  | blank {m m' : Margin} {c c' : Cursor} {j : Nat} {x : Text} (hx : Bare x)
    (hfree : '\n' ∉ x) (hrest : c.rest = x ++ '\n' :: ends (A.drop (j + 1)))
    (hrest' : c'.rest = '\n' :: ends (B.drop (j + 1))) (hline : c.line = j + 1)
    (hline' : c'.line = j + 1) : Margins A B (.ok (m, c)) (.ok (m', c'))
  | code {m : Margin} {c : Cursor} {j : Nat} {cr x t : Text} {d : Char}
    {r' : Except (Fault × Nat) (Margin × Cursor)} (hx : x = d :: t) (hd : d ∉ Scanner.breakers)
    (hfree : '\n' ∉ x) (hcr : Returns cr) (hrest : c.rest = x ++ '\n' :: ends (A.drop (j + 1)))
    (hline : c.line = j + 1) (hkept : B[j]? = A[j]? → trimmed cr x = x)
    (hcode : CutIdle cr x → ∃ c', r' = .ok (m, c') ∧ c'.rest.head? = some d
      ∧ InLine A B j cr x (trimmed cr x) c c') :
    Margins A B (.ok (m, c)) r'

/-- A line that is continued right behind its blanks is kept. -/
theorem trimmed_backslash {w : Text} (hw : ∀ c ∈ w, isGap c = true) (hcr : Returns cr) :
    trimmed cr (w ++ ['\\']) = w ++ ['\\'] := by
  have htrim := plain_backslash.trimmed_eq cr []
  rw [trimmed_nil hcr, List.append_nil] at htrim
  rw [trimmed_gap hw, htrim, if_neg (List.cons_ne_nil _ _)]

/-- What starts with code is not cut off from there on. -/
theorem head?_of_cutIdle {d : Char} {t : Text} (h : CutIdle cr x) (hx : x = d :: t)
    (hd : d ∉ Scanner.breakers) : (trimmed cr x).head? = some d := by
  obtain ⟨gap, hsplit, hidle⟩ := h
  cases htrim : trimmed cr x with
  | nil =>
    rw [htrim, List.nil_append] at hsplit
    rw [← hsplit, hx] at hidle
    exact absurd (List.mem_cons_of_mem _ (hidle.mem_boundaries rfl)) hd
  | cons e t' =>
    rw [htrim, hx] at hsplit
    cases hsplit
    rfl

theorem readMargin_of_code {d : Char} {y z : Text} (hd : d ∉ Scanner.breakers)
    (hy : y.head? = some d) (m : Margin) (line col : Nat) :
    readMargin m line col (y ++ z) = .ok (m, { rest := y ++ z, line := line, col := col }) := by
  have hhead : (y ++ z).head? = some d := by rw [List.head?_append, hy, Option.some_or]
  refine readMargin_of_head ?_ ?_ m line col
  · rw [hhead, Option.any_some, Bool.eq_false_iff]
    intro hgap
    obtain rfl | rfl | rfl := cases_of_isGap hgap
    all_goals exact hd (by decide)
  · rw [hhead]
    rintro ⟨⟩
    exact hd List.mem_cons_self

/-- Code on a line is read behind the same indentation in both texts. -/
theorem margins_of_code (hstripped : Stripped A B) {w t : Text} {d : Char} {m m' : Margin}
    (hw : ∀ c ∈ w, isGap c = true) (hd : d ∉ Scanner.breakers) (hcr : Returns cr)
    (hx : x = d :: t) (hA : A[i]? = some (w ++ x)) (hB : B[i]? = some (trimmed cr (w ++ x)))
    (hm : ∀ line col r, readMargin m line col (w ++ r) = readMargin m' line (col + w.length) r) :
    Margins A B (readMargin m (i + 1) 0 (ends (A.drop i)))
      (readMargin m (i + 1) 0 (ends (B.drop i))) := by
  have hfree : '\n' ∉ x := fun hmem =>
    hstripped.free _ (List.mem_of_getElem? hA) (List.mem_append_right w hmem)
  rw [ends_drop hA, List.append_assoc, hm, readMargin_of_code hd (by rw [hx]; rfl)]
  have hkept (hsame : B[i]? = A[i]?) : trimmed cr x = x := by
    rw [hA, hB, Option.some.injEq, trimmed_gap hw] at hsame
    split at hsame
    · rw [(List.append_eq_nil_iff.mp hsame.symm).2] at hx
      cases hx
    · exact List.append_cancel_left hsame
  refine .code hx hd hfree hcr rfl rfl hkept fun hcut => ?_
  have hhead := head?_of_cutIdle hcut hx hd
  have hne : trimmed cr x ≠ [] := by
    intro hnil
    rw [hnil] at hhead
    cases hhead
  have hrest' : ends (B.drop i) = w ++ (trimmed cr x ++ '\n' :: ends (B.drop (i + 1))) := by
    rw [ends_drop hB, trimmed_gap hw, if_neg hne, List.append_assoc]
  refine ⟨_, by rw [hrest', hm, readMargin_of_code hd hhead], ?_, ?_⟩
  · rw [List.head?_append, hhead, Option.some_or]
  exact {
    rest := rfl
    rest' := rfl
    line := rfl
    line' := rfl
    col := fun _ => rfl
    free := hfree
    returns := hcr
    cut := .inr rfl
    kept := hkept
    suffix := by
      have hsuffix := ends_drop_suffix B i
      rw [hrest'] at hsuffix
      exact (List.suffix_append w _).trans hsuffix }

theorem margins_of_lines (hstripped : Stripped A B) (hi : i < B.length) (m : Margin) :
    Margins A B (readMargin m (i + 1) 0 (ends (A.drop i)))
      (readMargin m (i + 1) 0 (ends (B.drop i))) := by
  induction hn : B.length - i generalizing i m with
  | zero => omega
  | succ n ih =>
    have hle := hstripped.le
    obtain ⟨a, hA⟩ : ∃ a, A[i]? = some a :=
      ⟨_, List.getElem?_eq_getElem (by omega : i < A.length)⟩
    obtain ⟨b, hB⟩ : ∃ b, B[i]? = some b := ⟨_, List.getElem?_eq_getElem hi⟩
    obtain ⟨cr, hcr, rfl⟩ : ∃ cr, Returns cr ∧ b = trimmed cr a := by
      have hline := hstripped.line i a hA
      rwa [hB] at hline
    obtain ⟨w, x, rfl, hall, hx⟩ := exists_margin a
    have hfree : '\n' ∉ x := fun hmem =>
      hstripped.free _ (List.mem_of_getElem? hA) (List.mem_append_right w hmem)
    obtain ⟨m', hm'⟩ := readMargin_gap hall m
    obtain hbare | ⟨t, rfl⟩ | ⟨d, t, hx, hd⟩ := cases_of_start hx hfree
    · have hnil : Bare [] := .inl rfl
      rw [ends_drop hA, ends_drop hB, (hbare.idle.append hall).trimmed_eq hcr, List.append_assoc,
        hm', hbare.readMargin_eq, hnil.readMargin_eq]
      exact .blank hbare hfree rfl rfl rfl rfl
    · rw [ends_drop hA, List.append_assoc, List.cons_append, hm']
      by_cases hbad : t ++ '\n' :: ends (A.drop (i + 1)) = ['\n']
          ∨ (t ++ '\n' :: ends (A.drop (i + 1))).head? ≠ some '\n'
      · obtain ⟨e, he⟩ := readMargin_backslash hbad m' (i + 1) (0 + w.length)
        rw [he]
        exact .error e _
      obtain ⟨hlast, hhead⟩ := not_or.mp hbad
      obtain rfl : t = [] := by
        by_contra ht
        exact hhead (head?_ne_break ht (List.not_mem_of_not_mem_cons hfree) _)
      have hiA : i + 1 < A.length := by
        by_contra hnot
        exact hlast (by rw [List.drop_eq_nil_of_le (by omega)]; rfl)
      rw [trimmed_backslash hall hcr] at hB
      have hrest' : ends (B.drop i) = w ++ '\\' :: '\n' :: ends (B.drop (i + 1)) := by
        rw [ends_drop hB, List.append_assoc]
        rfl
      have hsuffix := ends_drop_suffix B i
      rw [hrest'] at hsuffix
      have hiB := hstripped.lt_length hiA ((List.suffix_append w _).trans hsuffix)
      obtain ⟨m₂, hm₂⟩ := readMargin_continued m'
      rw [hrest', hm', List.nil_append, hm₂ _ _ _ (ends_drop_ne_nil hiA),
        hm₂ _ _ _ (ends_drop_ne_nil hiB)]
      exact ih hiB m₂ (by omega)
    · exact margins_of_code hstripped hall hd hcr hx hA hB hm'

end

/-! ## Steps at the start of a line -/

namespace Scanner

variable {A B : List Text} {tokens : List Token} {s s' : Scanner} {i : Nat}

theorem scanLine_nil (e : s.here.rest = []) : s.scanLine = s.enter ⟨0, 0, 0⟩ := by
  obtain ⟨⟨rest, line, col⟩, brackets, levels, found⟩ := s
  cases e
  rfl

theorem scanWithin_nil (e : s.here.rest = []) (hbrackets : s.brackets = []) :
    s.scanWithin = .done (s.pushMark .finish).found.reverse := by
  unfold scanWithin
  simp only [e, hbrackets]

/-- All brackets are closed at the end of a text that is scanned to its end. -/
theorem brackets_eq_nil (hstop : Unstopped tokens) (h : Leads s.scanWithin tokens)
    (e : s.here.rest = []) : s.brackets = [] := by
  cases hbrackets : s.brackets with
  | nil => rfl
  | cons b outer =>
    have hstep : s.scanWithin = .done (s.stopAt (.neverClosed b.char) b.line false) := by
      unfold scanWithin
      simp only [e, hbrackets]
    exact absurd (hstep ▸ h) (Leads.not_stopAt hstop)

theorem cutIdle_of_enter (hkept : Kept A B tokens) {m : Margin} {cr x more : Text}
    (h : Leads (s.enter m) tokens) (hcr : Returns cr) (e : s.here.rest = x ++ '\n' :: more)
    (hfree : '\n' ∉ x) (hline : s.here.line = i + 1) : B[i]? = A[i]? ∨ CutIdle cr x := by
  obtain ⟨fault, line, hstop⟩ | ⟨t, -, ht, -, hhere, -, -⟩ := enter_cases (.refl s) m
  · exact absurd (hstop ▸ h) (Leads.not_stopAt hkept.unstopped)
  · rw [ht] at h
    rw [← hhere] at e hline
    exact hkept.cutIdle h hcr e hfree hline

section Step

variable (hkept : Kept A B tokens) (h : Leads s.scanLine tokens) (halike : s.Alike s')
include hkept h halike

/-- Both scanners are at the end of their texts. -/
theorem echoes_of_end (hrest : s.here.rest = []) (hrest' : s'.here.rest = []) :
    Echoes tokens (.line s') := by
  rw [scanLine_nil hrest] at h
  refine .line ?_
  rw [scanLine_nil hrest']
  obtain ⟨fault, line, hstop⟩ | ⟨t, t', ht, ht', hhere, hhere', halike'⟩ :=
    enter_cases halike ⟨0, 0, 0⟩
  · exact absurd (hstop ▸ h) (Leads.not_stopAt hkept.unstopped)
  rw [ht] at h
  rw [ht']
  rw [← hhere] at hrest
  rw [← hhere'] at hrest'
  cases h with | within h => ?_
  have hbrackets := brackets_eq_nil hkept.unstopped h hrest
  rw [scanWithin_nil hrest hbrackets] at h
  cases h with | done => ?_
  refine .within ?_
  rw [scanWithin_nil hrest' (halike'.brackets.symm.trans hbrackets)]
  refine ⟨_, .done _, List.forall₂_reverse_iff.mpr (halike'.pushMark fun t ht => ?_).found⟩
  simp [Token.isLayout, Token.isFinish, ht]

variable (hstripped : Stripped A B) (ih : Follows A B tokens s.scanLine)
  (hat : AtLine A B i s.here s'.here)
include hstripped ih hat

/-- The first scanner is at a line that the second text has not. -/
theorem echoes_of_extra (hi : i < A.length) (hi' : B.length ≤ i) : Echoes tokens (.line s') := by
  have hB : B[i]? = none := List.getElem?_eq_none hi'
  obtain ⟨a, hA⟩ : ∃ a, A[i]? = some a := ⟨_, List.getElem?_eq_getElem hi⟩
  obtain ⟨cr, hcr, htrim⟩ := hstripped.line i a hA
  rw [hB, Option.getD_none] at htrim
  obtain ⟨hline, hcol⟩ := hat.start hi
  obtain ⟨w, x, rfl, hall, hx⟩ := exists_margin a
  have hfree : '\n' ∉ x := fun hmem =>
    hstripped.free _ (List.mem_of_getElem? hA) (List.mem_append_right w hmem)
  obtain ⟨m, hm⟩ := readMargin_gap hall ⟨0, 0, 0⟩
  have hread : readMargin ⟨0, 0, 0⟩ s.here.line s.here.col s.here.rest
      = readMargin m (i + 1) (0 + w.length) (x ++ '\n' :: ends (A.drop (i + 1))) := by
    rw [hline, hcol, hat.rest, ends_drop hA, List.append_assoc, hm]
  obtain hbare | ⟨t, rfl⟩ | ⟨d, t, hcode, hd⟩ := cases_of_start hx hfree
  · rw [hbare.readMargin_eq] at hread
    rw [scanLine_of_blank hread rfl hbare hfree] at ih
    exact ih s' (i + 1) (hat.wait hi' hfree rfl) ⟨halike.brackets, halike.levels, halike.found⟩
  · by_cases ht : t = []
    · rw [ht, trimmed_backslash hall hcr] at htrim
      exact absurd htrim.symm (List.append_ne_nil_of_right_ne_nil w (List.cons_ne_nil _ _))
    · have hhead := head?_ne_break ht (List.not_mem_of_not_mem_cons hfree)
        ('\n' :: ends (A.drop (i + 1)))
      obtain ⟨e, he⟩ := readMargin_backslash (.inr hhead) m (i + 1) (0 + w.length)
      obtain ⟨here, fault, line, eager, hstep⟩ := scanLine_of_error (hread.trans he)
      exact absurd (hstep ▸ h) (Leads.not_stopAt hkept.unstopped)
  · have hhead : x.head? = some d := by rw [hcode]; rfl
    rw [readMargin_of_code hd hhead] at hread
    rw [scanLine_of_code hread (by rw [List.head?_append, hhead, Option.some_or]) hd] at h
    exfalso
    obtain hsame | hcut := cutIdle_of_enter (i := i) hkept h hcr rfl hfree rfl
    · rw [hA, hB] at hsame
      cases hsame
    · have hkeep := head?_of_cutIdle hcut hcode hd
      rw [trimmed_gap hall] at htrim
      split at htrim
      · next hnil =>
        rw [hnil] at hkeep
        cases hkeep
      · next hne => exact hne (List.append_eq_nil_iff.mp htrim.symm).2

/-- Both scanners are at the start of a line. -/
theorem echoes_of_line (hi : i < B.length) : Echoes tokens (.line s') := by
  have hle := hstripped.le
  obtain ⟨hline, hcol⟩ := hat.start (by omega)
  obtain ⟨hline', hcol'⟩ := hat.start' hi
  have hmargins := margins_of_lines hstripped hi ⟨0, 0, 0⟩
  rw [← hat.rest, ← hat.rest'] at hmargins
  generalize hread : readMargin ⟨0, 0, 0⟩ (i + 1) 0 s.here.rest = r at hmargins
  generalize hread' : readMargin ⟨0, 0, 0⟩ (i + 1) 0 s'.here.rest = r' at hmargins
  have hreads : readMargin ⟨0, 0, 0⟩ s.here.line s.here.col s.here.rest = r := by
    rw [hline, hcol, hread]
  have hreads' : readMargin ⟨0, 0, 0⟩ s'.here.line s'.here.col s'.here.rest = r' := by
    rw [hline', hcol', hread']
  cases hmargins with
  | error e r' =>
    obtain ⟨here, fault, line, eager, hstep⟩ := scanLine_of_error hreads
    exact absurd (hstep ▸ h) (Leads.not_stopAt hkept.unstopped)
  | @blank m m' c c' j x hx hfree hrest hrest' hline hline' =>
    have hstep := scanLine_of_blank hreads hrest hx hfree
    have hstep' := scanLine_of_blank (x := []) hreads' hrest' (.inl rfl) List.not_mem_nil
    rw [hstep] at ih
    refine .line ?_
    rw [hstep']
    exact ih _ (j + 1) (AtLine.past hfree List.not_mem_nil hline hline')
      ((halike.moved c c').skip ..)
  | @code m c j cr x t d r' hx hd hfree hcr hrest hline hsame hcode =>
    have hhead : c.rest.head? = some d := by rw [hrest, hx]; rfl
    have hstep := scanLine_of_code hreads hhead hd
    rw [hstep] at ih h
    have hcut : CutIdle cr x := by
      obtain hlines | hcut := cutIdle_of_enter hkept h hcr hrest hfree hline
      · exact ⟨[], by rw [hsame hlines, List.append_nil], .nil⟩
      · exact hcut
    obtain ⟨c', rfl, hhead', hin⟩ := hcode hcut
    refine .line ?_
    rw [scanLine_of_code hreads' hhead' hd]
    obtain ⟨fault, line, hstop⟩ | ⟨t, t', ht, ht', hhere, hhere', halike'⟩ :=
      enter_cases (halike.moved c c') m
    · exact absurd (hstop ▸ h) (Leads.not_stopAt hkept.unstopped)
    · rw [ht] at ih
      rw [ht']
      exact ih t' j cr x _ (by rw [hhere, hhere']; exact hin) halike'

end Step

theorem follows_line (hstripped : Stripped A B) (hkept : Kept A B tokens)
    (h : Leads s.scanLine tokens) (ih : Follows A B tokens s.scanLine) :
    Follows A B tokens (.line s) := by
  intro s' i hat halike
  have hle := hstripped.le
  by_cases hi : i < B.length
  · exact echoes_of_line hkept h halike hstripped ih hat hi
  by_cases hiA : i < A.length
  · exact echoes_of_extra hkept h halike hstripped ih hat hiA (by omega)
  · refine echoes_of_end hkept h halike ?_ ?_
    · rw [hat.rest, List.drop_eq_nil_of_le (by omega)]
      rfl
    · rw [hat.rest', List.drop_eq_nil_of_le (by omega)]
      rfl

/-- Along a whole run. -/
theorem Leads.follows (hstripped : Stripped A B) (hkept : Kept A B tokens) {next : Next}
    (h : Leads next tokens) : Follows A B tokens next := by
  induction h with
  | done => trivial
  | line h ih => exact follows_line hstripped hkept h (ih hkept)
  | within h ih => exact follows_within hstripped hkept h (ih hkept)

end Scanner

end CodeReview.Source.Token
