import CodeReview.Proofs.Boundaries
import CodeReview.Proofs.Scanners

/-!
# What is cut off a line

Where no string is open at its start, a line loses its comment and the blanks before that. The
scanner skips exactly this part: if it comes through a line without a fault, and no string on it
goes on in the next line, then what was cut off is blanks and a comment to it as well.
-/

namespace CodeReview.Source

open Token

/-! ## Lines that are cut -/

/-- What can stand between a line and its line feed. -/
def Returns (cr : Text) : Prop :=
  cr = [] ∨ cr = ['\x0d']

/-- The part of a line that is kept, from a place outside of strings on. -/
def trimmed (cr x : Text) : Text :=
  Text.stripRight (uncommentedFrom none 0 (x ++ cr))

theorem uncommentedFrom_append {p : Text} (hp : ∀ c ∈ p, c ≠ '#' ∧ c ≠ '"' ∧ c ≠ '\'') (x : Text) :
    uncommentedFrom none 0 (p ++ x) = p ++ uncommentedFrom none 0 x := by
  induction p with
  | nil => rfl
  | cons c p ih =>
    obtain ⟨⟨hhash, hdouble, hsingle⟩, hp⟩ := List.forall_mem_cons.mp hp
    simp [uncommentedFrom, hhash, hdouble, hsingle, ih hp]

section

variable {cr x : Text}

theorem trimmed_nil (hcr : Returns cr) : trimmed cr [] = [] := by
  obtain rfl | rfl := hcr
  · rfl
  · decide

theorem trimmed_comment (t : Text) : trimmed cr ('#' :: t) = [] := by
  simp only [trimmed, List.cons_append, uncommentedFrom]
  rfl

/-- A part that ends with no blank and has no comment stays. -/
theorem trimmed_append {p : Text} {c : Char} (hlast : p.getLast? = some c)
    (hc : Text.isBlank c = false)
    (hp : uncommentedFrom none 0 (p ++ (x ++ cr)) = p ++ uncommentedFrom none 0 (x ++ cr)) :
    trimmed cr (p ++ x) = p ++ trimmed cr x := by
  unfold trimmed
  rw [List.append_assoc, hp]
  exact Text.stripRight_append_of_last hlast hc _

theorem Token.Plain.trimmed_eq {taken : Text} (h : Plain taken) (cr x : Text) :
    trimmed cr (taken ++ x) = taken ++ trimmed cr x := by
  obtain ⟨c, hlast⟩ := Option.ne_none_iff_exists'.mp (mt List.getLast?_eq_none_iff.mp h.ne_nil)
  exact trimmed_append hlast (h.last c hlast) (uncommentedFrom_append h.chars _)

variable {q : Char} {triple : Bool}

theorem Encloses.getLast? {t : Text} (h : Encloses q t triple) :
    t.getLast? = some q := by
  have hcloses {size seen : Nat} {escaped : Bool} {t : Text} (h : Closes q size seen escaped t) :
      t.getLast? = some q := by
    induction h with
    | last => rfl
    | quote _ h ih => rw [List.getLast?_cons_of_ne_nil h.ne_nil]; exact ih
    | other _ _ h ih => rw [List.getLast?_cons_of_ne_nil h.ne_nil]; exact ih
    | escaped h ih => rw [List.getLast?_cons_of_ne_nil h.ne_nil]; exact ih
  cases h with
  | triple h => simpa [List.getLast?_cons] using congrArg (·.getD q) (hcloses h)
  | empty => rfl
  | single h => rw [List.getLast?_cons_of_ne_nil h.ne_nil]; exact hcloses h

theorem Encloses.getLast?_append {t : Text} (h : Encloses q t triple)
    (mark : Text) : (mark ++ t).getLast? = some q := by
  rw [List.getLast?_append, h.getLast?]
  rfl

theorem Token.Scanner.Opens.ne_break {mark : Text} (h : Scanner.Opens mark q) :
    q ≠ '\n' := by
  obtain rfl | rfl := h.quote
  all_goals decide

theorem Encloses.append_ne_nil {t : Text} (h : Encloses q t triple)
    (mark : Text) : mark ++ t ≠ [] := by
  intro hnil
  have hlast := h.getLast?_append mark
  rw [hnil] at hlast
  cases hlast

theorem Encloses.getLast?_ne_break {mark t : Text}
    (h : Encloses q t triple) (hopens : Scanner.Opens mark q) :
    (mark ++ t).getLast? ≠ some '\n' := by
  rw [h.getLast?_append]
  exact fun hq => hopens.ne_break (Option.some.inj hq)

/-- What stands before the line feed is no quote. -/
theorem Parted.returns {t more : Text} (h : Parted q t (x ++ '\n' :: more))
    (hq : q = '"' ∨ q = '\'') (hcr : Returns cr) : Parted q t (x ++ cr) := by
  intro ht
  cases x with
  | nil =>
    obtain rfl | rfl := hcr
    all_goals
      obtain rfl | rfl := hq
      all_goals decide
  | cons c x => exact h ht

/-- A string that ends on its line stays, with the letters before it. -/
theorem Encloses.trimmed_eq {mark t : Text} (h : Encloses q t triple)
    (hopens : Scanner.Opens mark q) (hparted : Parted q t (x ++ cr)) :
    trimmed cr (mark ++ t ++ x) = mark ++ t ++ trimmed cr x := by
  have hblank : Text.isBlank q = false := by
    obtain rfl | rfl := hopens.quote
    all_goals decide
  refine trimmed_append (h.getLast?_append mark) hblank ?_
  rw [List.append_assoc, uncommentedFrom_append hopens.chars, h.uncommented_eq hopens.quote hparted,
    List.append_assoc]

/-! ## Blanks and comments -/

/-- A blank that the scanner skips. -/
def isGap (c : Char) : Bool :=
  c = ' ' || c = '\t' || c = '\x0c'

theorem cases_of_isGap {c : Char} (h : isGap c = true) : c = ' ' ∨ c = '\t' ∨ c = '\x0c' := by
  simpa [isGap, or_assoc] using h

theorem not_mem_breakers {c : Char} (hgap : ¬ isGap c = true) (hhash : c ≠ '#') (hback : c ≠ '\\')
    (hbreak : c ≠ '\n') : c ∉ Scanner.breakers := by
  intro hmem
  simp only [Scanner.breakers, boundaries, List.mem_cons, List.not_mem_nil, or_false] at hmem
  obtain rfl | rfl | rfl | rfl | rfl | rfl := hmem
  · exact hback rfl
  · exact hgap (by decide)
  · exact hgap (by decide)
  · exact hgap (by decide)
  · exact hhash rfl
  · exact hbreak rfl

/-- The blanks at the start of a line, up to what is no blank or to its end. -/
theorem exists_margin (x : Text) :
    ∃ w r, x = w ++ r ∧ (∀ d ∈ w, isGap d = true) ∧ r.head?.any isGap = false := by
  refine ⟨x.takeWhile isGap, x.dropWhile isGap, List.takeWhile_append_dropWhile.symm, ?_, ?_⟩
  · exact fun d hd => List.all_eq_true.mp List.all_takeWhile d hd
  · have hhead := List.head?_dropWhile_not isGap x
    cases hdrop : x.dropWhile isGap with
    | nil => rfl
    | cons d r =>
      rw [hdrop] at hhead
      simpa using hhead

theorem exists_gap {x rest : Text} {c : Char} (hx : x = c :: rest) (hc : isGap c = true) :
    ∃ w r, x = w ++ r ∧ w ≠ [] ∧ (∀ d ∈ w, isGap d = true) ∧ r.head?.any isGap = false := by
  obtain ⟨w, r, hsplit, hall, hr⟩ := exists_margin x
  refine ⟨w, r, hsplit, ?_, hall, hr⟩
  rintro rfl
  rw [← List.nil_append r, ← hsplit, hx] at hr
  exact absurd hr (by simp [hc])

theorem any_isGap_append {r : Text} (hr : r.head?.any isGap = false) (more : Text) :
    (r ++ '\n' :: more).head?.any isGap = false := by
  cases r with
  | nil => rfl
  | cons d r => exact hr

/-- Blanks stay only before something that does. -/
theorem trimmed_gap {w : Text} (hw : ∀ c ∈ w, isGap c = true) (cr x : Text) :
    trimmed cr (w ++ x) = if trimmed cr x = [] then [] else w ++ trimmed cr x := by
  have hchars : ∀ c ∈ w, c ≠ '#' ∧ c ≠ '"' ∧ c ≠ '\'' := by
    intro c hc
    obtain rfl | rfl | rfl := cases_of_isGap (hw c hc)
    all_goals decide
  have hblank : ∀ c ∈ w, Text.isBlank c = true := by
    intro c hc
    obtain rfl | rfl | rfl := cases_of_isGap (hw c hc)
    all_goals decide
  unfold trimmed
  rw [List.append_assoc, uncommentedFrom_append hchars, Text.stripRight_append,
    Text.stripRight_eq_nil hblank]

/-- Blanks, and a comment after them or none. -/
inductive Idle : Text → Prop where
  | nil : Idle []
  | comment (t : Text) : Idle ('#' :: t)
  | blank {c : Char} {t : Text} (hc : isGap c = true) (h : Idle t) : Idle (c :: t)

namespace Idle

theorem append {w t : Text} (hw : ∀ c ∈ w, isGap c = true) (h : Idle t) : Idle (w ++ t) := by
  induction w with
  | nil => exact h
  | cons c w ih =>
    obtain ⟨hc, hw⟩ := List.forall_mem_cons.mp hw
    exact .blank hc (ih hw)

theorem trimmed_eq (h : Idle x) (hcr : Returns cr) : trimmed cr x = [] := by
  induction h with
  | nil => exact trimmed_nil hcr
  | comment t => exact trimmed_comment t
  | @blank c t hc h ih =>
    have hgap := trimmed_gap (List.forall_mem_singleton.mpr hc) cr t
    rw [if_pos ih] at hgap
    exact hgap

theorem mem_boundaries (h : Idle x) {c : Char} (hc : x.head? = some c) : c ∈ boundaries := by
  cases h with
  | nil => cases hc
  | comment t => cases hc; decide
  | blank hgap h =>
    cases hc
    obtain rfl | rfl | rfl := cases_of_isGap hgap
    all_goals decide

theorem boundary (h : Idle x) (z : Text) : Boundary (x ++ '\n' :: z) := by
  cases x with
  | nil => exact ⟨'\n', by decide, rfl⟩
  | cons c x => exact ⟨c, h.mem_boundaries rfl, rfl⟩

/-- Behind blanks it is a comment or nothing. -/
theorem of_append {w t : Text} (hw : ∀ c ∈ w, isGap c = true) (h : Idle (w ++ t)) : Idle t := by
  induction w with
  | nil => exact h
  | cons c w ih =>
    obtain ⟨hc, hw⟩ := List.forall_mem_cons.mp hw
    cases h with
    | comment => exact absurd hc (by decide)
    | blank _ h => exact ih hw h

end Idle

/-- Only blanks and a comment are cut off. -/
def CutIdle (cr x : Text) : Prop :=
  ∃ gap, x = trimmed cr x ++ gap ∧ Idle gap

theorem CutIdle.append {p : Text} (h : CutIdle cr x)
    (hp : trimmed cr (p ++ x) = p ++ trimmed cr x) : CutIdle cr (p ++ x) := by
  obtain ⟨gap, hgap, hidle⟩ := h
  refine ⟨gap, ?_, hidle⟩
  rw [hp, List.append_assoc, ← hgap]

theorem CutIdle.gap {w : Text} (h : CutIdle cr x) (hw : ∀ c ∈ w, isGap c = true) :
    CutIdle cr (w ++ x) := by
  by_cases hnil : trimmed cr x = []
  · obtain ⟨gap, hgap, hidle⟩ := h
    rw [hnil, List.nil_append] at hgap
    refine ⟨w ++ x, ?_, .append hw (hgap ▸ hidle)⟩
    rw [trimmed_gap hw, if_pos hnil, List.nil_append]
  · exact h.append (by rw [trimmed_gap hw, if_neg hnil])

end

/-! ## Lines of texts -/

section

variable {p r x more : Text}

/-- A part of a text without line feeds is a part of its first line. -/
theorem exists_of_append_eq (hp : '\n' ∉ p) (h : x ++ '\n' :: more = p ++ r) :
    ∃ x', x = p ++ x' ∧ r = x' ++ '\n' :: more := by
  obtain ⟨x', hp', hr⟩ | ⟨x', hx, hr⟩ := List.append_eq_append_iff.mp h
  · cases x' with
    | nil => exact ⟨[], by simpa using hp'.symm, by simpa using hr.symm⟩
    | cons c x' =>
      cases hr
      exact absurd (hp' ▸ List.mem_append_right x List.mem_cons_self) hp
  · exact ⟨x', hx, hr⟩

/-- A part with a line feed has the whole first line. -/
theorem exists_of_append_eq_of_mem (hx : '\n' ∉ x) (hp : '\n' ∈ p)
    (h : x ++ '\n' :: more = p ++ r) : ∃ p', p = x ++ '\n' :: p' ∧ more = p' ++ r := by
  obtain ⟨t, rfl, ht⟩ | ⟨t, rfl, ht⟩ := List.append_eq_append_iff.mp h
  · cases t with
    | nil => exact absurd (by simpa using hp) hx
    | cons d t =>
      obtain ⟨rfl, htail⟩ := List.cons.inj ht
      exact ⟨t, rfl, htail⟩
  · exact absurd (List.mem_append_left t hp) hx

/-- A line that is not empty does not start with a line feed. -/
theorem head?_ne_break (hx : x ≠ []) (hfree : '\n' ∉ x) (more : Text) :
    (x ++ more).head? ≠ some '\n' := by
  obtain ⟨c, x, rfl⟩ := List.exists_cons_of_ne_nil hx
  exact fun hc => hfree (by rw [Option.some.inj hc]; exact List.mem_cons_self)

theorem past_line_of_last (hp : p.getLast? ≠ some '\n') (c : Cursor) :
    (c.past p r).line = c.line + breaks p := by
  rw [past_line, if_neg fun h => hp h.2]
  rfl

theorem past_line_of_free (hp : '\n' ∉ p) (c : Cursor) :
    (c.past p r).line = c.line := by
  rw [past_line_of_last fun hlast => hp (List.mem_of_getLast? hlast), breaks_eq_zero_iff.mpr hp]
  rfl

end

/-! ## Steps within a line -/

namespace Token.Scanner

variable {s : Scanner} {c : Char} {rest : Text}

/-- A step that skips all characters of a kind. -/
theorem skip_takeWhile {p : Char → Bool} {w r : Text} (e : s.here.rest = w ++ r)
    (hw : ∀ c ∈ w, p c = true) (hr : r.head?.any p = false) :
    s.skip (s.here.rest.takeWhile p) (s.here.rest.drop (s.here.rest.takeWhile p).length)
      = s.skip w r := by
  have hnil : r.takeWhile p = [] := by
    cases r with
    | nil => rfl
    | cons c r => exact List.takeWhile_cons_of_neg (by simpa using hr)
  rw [e, List.takeWhile_append_of_pos hw, hnil, List.append_nil, List.drop_left]

theorem scanWithin_gap {w r : Text} (e : s.here.rest = w ++ r) (hw : ∀ c ∈ w, isGap c = true)
    (hne : w ≠ []) (hr : r.head?.any isGap = false) : s.scanWithin = .within (s.skip w r) := by
  obtain ⟨c, w, rfl⟩ := List.exists_cons_of_ne_nil hne
  have hc : (decide (c = ' ') || decide (c = '\t') || decide (c = '\x0c')) = true :=
    hw c List.mem_cons_self
  have hskip := skip_takeWhile e hw hr
  rw [e] at hskip
  unfold scanWithin
  simp only [e, List.cons_append]
  rw [if_pos hc]
  exact congrArg Next.within hskip

theorem scanWithin_comment {t r : Text} (e : s.here.rest = '#' :: (t ++ '\n' :: r))
    (ht : '\n' ∉ t) : s.scanWithin = .within (s.skip ('#' :: t) ('\n' :: r)) := by
  have hall : ∀ c ∈ '#' :: t, decide (c ≠ '\n') = true := by
    intro c hc
    rw [decide_eq_true_eq]
    rintro rfl
    exact (List.mem_cons.mp hc).elim (by decide) ht
  have hskip := skip_takeWhile (p := fun c => decide (c ≠ '\n')) (w := '#' :: t) (r := '\n' :: r)
    e hall (by simp)
  rw [e] at hskip
  unfold scanWithin
  simp only [e]
  rw [if_neg (by decide), if_pos trivial]
  exact congrArg Next.within hskip

theorem scanWithin_break (e : s.here.rest = '\n' :: rest) :
    s.scanWithin = .line (s.markBreak.skip ['\n'] rest) := by
  unfold scanWithin markBreak
  simp only [e]
  rw [if_neg (by decide), if_neg (by decide), if_pos trivial]
  split
  · rfl
  · rfl

theorem scanWithin_continued (e : s.here.rest = '\\' :: '\n' :: rest) (hrest : rest ≠ []) :
    s.scanWithin = .within (s.skip ['\\', '\n'] rest) := by
  obtain ⟨c, rest, rfl⟩ := List.exists_cons_of_ne_nil hrest
  unfold scanWithin
  simp only [e]
  rw [if_neg (by decide), if_neg (by decide), if_neg (by decide), if_pos trivial]
  rfl

/-- A backslash continues its line only at its end, and not at the end of the text. -/
theorem scanWithin_backslash (e : s.here.rest = '\\' :: rest)
    (h : rest = ['\n'] ∨ rest.head? ≠ some '\n') :
    ∃ fault line, s.scanWithin = .done (s.stopAt fault line false) := by
  unfold scanWithin
  simp only [e]
  rw [if_neg (by decide), if_neg (by decide), if_neg (by decide), if_pos trivial]
  split
  · split
    · exact ⟨_, _, rfl⟩
    · exact ⟨_, _, rfl⟩
  · next more hne =>
    obtain h | h := h
    · cases h
      exact absurd rfl hne
    · exact absurd rfl h
  · exact ⟨_, _, rfl⟩

/-! ### Strings -/

variable {mark t r : Text} {q : Char} {triple : Bool}

theorem scanWithin_string (hopens : Opens mark q) (h : Encloses q t triple) (hparted : Parted q t r)
    (e : s.here.rest = mark ++ t ++ r) :
    s.scanWithin = .within (s.push .string (mark ++ t) r) := by
  obtain ⟨t', rfl⟩ : ∃ t', t = q :: t' := by cases h <;> exact ⟨_, rfl⟩
  have hread := h.readString_eq hopens.ne_break hparted
  rw [List.append_assoc, List.cons_append] at e
  rw [hopens.step s _ e]
  unfold scanString
  rw [List.cons_append] at hread
  simp only [hread, if_true]

/-- A string that starts is read to its end, or the scanner stops. -/
theorem cases_of_opens (hopens : Opens mark q) (e : s.here.rest = mark ++ q :: rest) :
    (∃ fault line eager, s.scanWithin = .done (s.stopAt fault line eager))
      ∨ ∃ t triple r, Encloses q t triple ∧ Parted q t r ∧ q :: rest = t ++ r := by
  cases hread : (readString q (q :: rest)).2.2.1 with
  | true =>
    obtain ⟨henc, hparted⟩ := encloses_of_readString hread
    exact .inr ⟨_, _, _, henc, hparted, (took_readString q rest).1.symm⟩
  | false =>
    refine .inl ?_
    rw [hopens.step s rest e]
    unfold scanString
    simp only [hread, Bool.false_eq_true, if_false]
    exact ⟨_, _, _, rfl⟩

/-! ## Runs -/

/-- The tokens of a text that was scanned to its end. -/
def Unstopped (tokens : List Token) : Prop :=
  ∀ t ∈ tokens, ∀ why, t.kind ≠ .stop why

variable {tokens : List Token}

theorem Leads.not_stopAt (hstop : Unstopped tokens) {fault : Fault}
    {line : Nat} {eager : Bool} : ¬ Leads (.done (s.stopAt fault line eager)) tokens := by
  intro h
  cases h with
  | done => exact hstop _ (List.mem_reverse.mpr List.mem_cons_self) _ rfl

/-- What is read next in a text that is scanned to its end, where no blank stands. -/
theorem Leads.token_cases (hstop : Unstopped tokens)
    (h : Leads s.scanWithin tokens) {y z : Text} (hy : y = c :: rest) (hc : c ∉ breakers)
    (e : s.here.rest = y ++ z) (hz : Boundary z) :
    (∃ kind taken brackets, Reads s y kind taken brackets)
      ∨ ∃ mark q t triple r, Opens mark q ∧ Encloses q t triple ∧ Parted q t r
        ∧ s.here.rest = mark ++ t ++ r := by
  obtain ⟨fault, line, eager, hstep⟩ | hreads | ⟨mark, q, more, hopens, hq⟩ :=
    scanWithin_cases hy hc e hz
  · exact absurd (hstep ▸ h) (Leads.not_stopAt hstop)
  · exact .inl hreads
  have eopens : s.here.rest = mark ++ q :: (more ++ z) := by
    rw [e, hopens, List.append_assoc]
    rfl
  obtain ⟨fault, line, eager, hstep⟩ | ⟨t, triple, r, henc, hparted, hr⟩ := cases_of_opens hq eopens
  · exact absurd (hstep ▸ h) (Leads.not_stopAt hstop)
  · refine .inr ⟨mark, q, t, triple, r, hq, henc, hparted, ?_⟩
    rw [eopens, hr, List.append_assoc]

/-- The token of a string with a line feed ends on a later line than it starts. -/
theorem Leads.exists_long
    (h : Leads (.within (s.push .string (mark ++ t) r)) tokens) (hopens : Opens mark q)
    (henc : Encloses q t triple) (hbreak : '\n' ∈ mark ++ t) :
    ∃ u ∈ tokens, u.line = s.here.line ∧ u.endLine = s.here.line + breaks (mark ++ t)
      ∧ u.line < u.endLine := by
  have hend : (s.here.past (mark ++ t) r).line = s.here.line + breaks (mark ++ t) :=
    past_line_of_last (henc.getLast?_ne_break hopens) s.here
  have hbreaks : breaks (mark ++ t) ≠ 0 := fun hzero => breaks_eq_zero_iff.mp hzero hbreak
  refine ⟨_, h.subset List.mem_cons_self, rfl, hend, ?_⟩
  show s.here.line < (s.here.past (mark ++ t) r).line
  omega

/-- Only blanks and a comment are cut off the rest of a line, unless a string on it goes on in the
next line. The induction is on the length of that rest. -/
theorem cutIdle_of_leads (hstop : Unstopped tokens) {cr : Text}
    (hcr : Returns cr) {x more : Text} (h : Leads (.within s) tokens)
    (e : s.here.rest = x ++ '\n' :: more) (hx : '\n' ∉ x) :
    (∃ t ∈ tokens, t.line = s.here.line ∧ t.line < t.endLine) ∨ CutIdle cr x := by
  induction hn : x.length using Nat.strong_induction_on generalizing s x with
  | _ n ih =>
  cases h with | within h => ?_
  -- The scanner goes on behind a part of the line.
  have hnext {p x' : Text} {s' : Scanner} (hxp : x = p ++ x') (hp : p ≠ [])
      (h' : s.scanWithin = .within s') (hhere : s'.here = s.here.past p (x' ++ '\n' :: more))
      (hcut : CutIdle cr x' → CutIdle cr x) :
      (∃ t ∈ tokens, t.line = s.here.line ∧ t.line < t.endLine) ∨ CutIdle cr x := by
    have hfree : '\n' ∉ p := fun hmem => hx (hxp ▸ List.mem_append_left _ hmem)
    have hfree' : '\n' ∉ x' := fun hmem => hx (hxp ▸ List.mem_append_right _ hmem)
    have hlt : x'.length < n := by
      rw [← hn, hxp, List.length_append]
      have := List.length_pos_iff.mpr hp
      omega
    have hline : s'.here.line = s.here.line := by rw [hhere, past_line_of_free hfree]
    rw [← hline]
    exact (ih _ hlt (h' ▸ h) (by rw [hhere, past_rest]) hfree' rfl).imp id hcut
  cases hcons : x with
  | nil => exact .inr ⟨[], by rw [trimmed_nil hcr]; rfl, .nil⟩
  | cons c rest => ?_
  rw [← hcons]
  by_cases hgap : isGap c = true
  · obtain ⟨w, r, hsplit, hne, hall, hr⟩ := exists_gap hcons hgap
    have egap : s.here.rest = w ++ (r ++ '\n' :: more) := by rw [e, hsplit, List.append_assoc]
    have hstep := scanWithin_gap egap hall hne (any_isGap_append hr more)
    refine hnext hsplit hne hstep rfl fun hcut => ?_
    rw [hsplit]
    exact hcut.gap hall
  by_cases hhash : c = '#'
  · subst hhash
    rw [hcons]
    exact .inr ⟨'#' :: rest, by rw [trimmed_comment]; rfl, .comment rest⟩
  by_cases hback : c = '\\'
  · subst hback
    by_cases hrest : rest = []
    · have hnil : CutIdle cr [] := ⟨[], by rw [trimmed_nil hcr]; rfl, .nil⟩
      rw [hcons, hrest]
      exact .inr (hnil.append (plain_backslash.trimmed_eq cr []))
    · have hfree : '\n' ∉ rest := List.not_mem_of_not_mem_cons (hcons ▸ hx)
      have eback : s.here.rest = '\\' :: (rest ++ '\n' :: more) := by rw [e, hcons]; rfl
      obtain ⟨fault, line, hstep⟩ :=
        scanWithin_backslash eback (.inr (head?_ne_break hrest hfree _))
      exact absurd (hstep ▸ h) (Leads.not_stopAt hstop)
  have hc : c ∉ breakers := not_mem_breakers hgap hhash hback fun hbreak =>
    hx (by rw [hcons, hbreak]; exact List.mem_cons_self)
  have hz : Boundary ('\n' :: more) := ⟨'\n', by decide, rfl⟩
  obtain ⟨kind, taken, brackets, hreads⟩ | ⟨mark, q, t, triple, r, hopens, henc, hparted, erest⟩ :=
    h.token_cases hstop hcons hc e hz
  · have hsplit := List.prefix_iff_eq_append.mp hreads.isPrefix
    refine hnext hsplit.symm hreads.plain.ne_nil (hreads.step s _ rfl rfl e hz) rfl fun hcut => ?_
    rw [← hsplit]
    exact hcut.append (hreads.plain.trimmed_eq cr _)
  · have hstep := scanWithin_string hopens henc hparted erest
    by_cases hfree : '\n' ∈ mark ++ t
    · rw [hstep] at h
      obtain ⟨u, hu, hline, -, hlt⟩ := h.exists_long hopens henc hfree
      exact .inl ⟨u, hu, hline, hlt⟩
    · obtain ⟨x', hxp, hr'⟩ := exists_of_append_eq hfree (e.symm.trans erest)
      refine hnext hxp (henc.append_ne_nil mark) hstep (by rw [← hr']; rfl) fun hcut => ?_
      rw [hxp]
      exact hcut.append (henc.trimmed_eq hopens ((hr' ▸ hparted).returns hopens.quote hcr))

end Token.Scanner

end CodeReview.Source
