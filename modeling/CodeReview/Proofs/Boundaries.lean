import CodeReview.Proofs.Uncommenting

/-!
# Tokens up to a boundary

A blank, the start of a comment or a line feed ends every token but a string. So what the scanner
reads next depends on the text up to such a boundary only: with the same brackets open it reads the
same token from any text that is the same up to one.
-/

namespace CodeReview.Source.Token

/-! ## Boundaries -/

/-- The characters that end every token but a string. -/
def boundaries : List Char :=
  [' ', '\t', '\x0c', '#', '\n']

def Boundary (z : Text) : Prop :=
  ∃ c ∈ boundaries, z.head? = some c

/-- No boundary is a character of this kind. -/
theorem forall_boundaries {p : Char → Bool} (h : boundaries.all (!p ·) = true) :
    ∀ c ∈ boundaries, p c = false := fun c hc => by
  simpa using List.all_eq_true.mp h c hc

theorem mayContinue_boundary : ∀ c ∈ boundaries, mayContinue c = false :=
  forall_boundaries (by decide +kernel)

theorem isDigit_boundary : ∀ c ∈ boundaries, c.isDigit = false :=
  forall_boundaries (by decide +kernel)

theorem number_boundary :
    ∀ c ∈ boundaries, (mayContinue c || c = '.' || c = '+' || c = '-') = false :=
  forall_boundaries (by decide +kernel)

section

variable {y z : Text} {p : Char → Bool}

theorem takeWhile_boundary (hp : ∀ c ∈ boundaries, p c = false) (hz : Boundary z) :
    (y ++ z).takeWhile p = y.takeWhile p := by
  obtain ⟨c, hc, hhead⟩ := hz
  obtain ⟨z, rfl⟩ := List.head?_eq_some_iff.mp hhead
  rw [List.takeWhile_append, List.takeWhile_cons_of_neg (by simp [hp c hc]), List.append_nil]
  split
  · next h => exact (List.IsPrefix.eq_of_length ( List.takeWhile_prefix p) h).symm
  · rfl

theorem dropWhile_boundary (hp : ∀ c ∈ boundaries, p c = false) (hz : Boundary z) :
    (y ++ z).dropWhile p = y.dropWhile p ++ z := by
  obtain ⟨c, hc, hhead⟩ := hz
  obtain ⟨z, rfl⟩ := List.head?_eq_some_iff.mp hhead
  rw [List.dropWhile_append, List.dropWhile_cons_of_neg (by simp [hp c hc])]
  split
  · next h => rw [List.isEmpty_iff.mp h, List.nil_append]
  · rfl

theorem isPrefixOf_boundary {o : Text} (ho : ∀ c ∈ o, c ∉ boundaries) (hz : Boundary z) :
    o.isPrefixOf (y ++ z) = o.isPrefixOf y := by
  obtain ⟨c, hc, hhead⟩ := hz
  obtain ⟨z, rfl⟩ := List.head?_eq_some_iff.mp hhead
  induction o generalizing y with
  | nil => rfl
  | cons d o ih =>
    obtain ⟨hd, ho⟩ := List.forall_mem_cons.mp ho
    cases y with
    | nil =>
      have hne : (d == c) = false := beq_eq_false_iff_ne.mpr fun h => hd (h ▸ hc)
      simp [List.isPrefixOf, hne]
    | cons e y => simp [List.isPrefixOf, ih ho]

/-- A question about the next character that no boundary answers with yes. -/
theorem head?_any_boundary (hp : ∀ c ∈ boundaries, p c = false) (hz : Boundary z) :
    (y ++ z).head?.any p = y.head?.any p := by
  obtain ⟨c, hc, hhead⟩ := hz
  cases y with
  | nil => simp [hhead, hp c hc]
  | cons d y => rfl

end

/-! ## Texts of tokens -/

/-- The text of a token that is no string: a search for comments passes over it, and it ends with no
blank. -/
structure Plain (taken : Text) : Prop where
  ne_nil : taken ≠ []
  chars : ∀ c ∈ taken, c ≠ '#' ∧ c ≠ '"' ∧ c ≠ '\''
  last : ∀ c, taken.getLast? = some c → Text.isBlank c = false

theorem plain_of_isNumeral {taken : Text} (hne : taken ≠ []) (h : ∀ c ∈ taken, IsNumeral c) :
    Plain taken := by
  refine ⟨hne, fun c hc => ?_, fun c hc => ?_⟩
  · have hnumeral := h c hc
    refine ⟨?_, ?_, ?_⟩
    all_goals
      rintro rfl
      exact absurd hnumeral (by decide)
  · have hnumeral := h c (List.mem_of_getLast? hc)
    have hlow : '+'.toNat = 43 := rfl
    have hhigh : 'z'.toNat = 122 := rfl
    unfold IsNumeral at hnumeral
    rw [Bool.eq_false_iff]
    intro hblank
    have hcode := Text.toNat_of_isBlank hblank
    omega

theorem mayContinue_ne {c : Char} (h : mayContinue c = true) : c ≠ '#' ∧ c ≠ '"' ∧ c ≠ '\'' := by
  refine ⟨?_, ?_, ?_⟩
  all_goals
    rintro rfl
    exact absurd h (by decide)

theorem plain_of_badCharacter? {taken : Text} (hne : taken ≠ [])
    (hall : ∀ c ∈ taken, mayContinue c = true) (h : Scanner.badCharacter? taken = none) :
    Plain taken := by
  refine ⟨hne, fun c hc => mayContinue_ne (hall c hc), fun c hc => ?_⟩
  obtain ⟨d, rest, rfl⟩ := List.exists_cons_of_ne_nil hne
  simp only [Scanner.badCharacter?] at h
  split at h
  · next hstart =>
    obtain rfl | hmem := List.mem_cons.mp (List.mem_of_getLast? hc)
    · exact Text.isBlank_of_isIdentifierStart hstart
    · have hcontinue := List.find?_eq_none.mp h c hmem
      exact Text.isBlank_of_isIdentifierContinue (by simpa using hcontinue)
  · cases h

/-- A character that makes an operator alone. -/
theorem plain_singleton {c : Char} (hmay : mayContinue c = false)
    (hprint : Text.isPrintable c = true) (hspace : c ≠ ' ') (hhash : c ≠ '#')
    (hquote : c ≠ '"' ∧ c ≠ '\'') : Plain [c] := by
  refine ⟨List.cons_ne_nil _ _, List.forall_mem_singleton.mpr ⟨hhash, hquote⟩, fun d hd => ?_⟩
  obtain rfl : c = d := by simpa using hd
  have hsmall : c.toNat ≤ 127 := by
    simp only [mayContinue, Bool.or_eq_false_iff, decide_eq_false_iff_not] at hmay
    omega
  have hne : c.toNat ≠ 32 := by
    intro h
    apply hspace
    rw [← Char.ofNat_toNat c, h]
  simp only [Text.isPrintable] at hprint
  split at hprint
  · simp only [Bool.and_eq_true, decide_eq_true_eq] at hprint
    rw [Bool.eq_false_iff]
    intro hblank
    have hcode := Text.toNat_of_isBlank hblank
    omega
  · omega

theorem plain_backslash : Plain ['\\'] :=
  plain_singleton (by decide) (by decide) (by decide) (by decide) (by decide)

theorem plain_longOperators : ∀ o ∈ longOperators, Plain o := by
  have hall : (longOperators.all fun o =>
      !o.isEmpty && o.all (fun c => c ≠ '#' && c ≠ '"' && c ≠ '\'')
        && o.getLast?.all (fun c => !Text.isBlank c)) = true := by decide +kernel
  intro o ho
  have hplain := List.all_eq_true.mp hall o ho
  simp only [Bool.and_eq_true, List.all_eq_true, decide_eq_true_eq, Bool.not_eq_true',
    List.isEmpty_eq_false_iff, and_assoc] at hplain
  obtain ⟨hne, hchars, hlast⟩ := hplain
  refine ⟨hne, hchars, fun c hc => ?_⟩
  rw [hc] at hlast
  simpa using hlast

/-- No long operator has a boundary in it. -/
theorem longOperators_boundary : ∀ o ∈ longOperators, ∀ c ∈ o, c ∉ boundaries := by
  have hall : (longOperators.all fun o => o.all fun c => !boundaries.contains c) = true := by
    decide +kernel
  intro o ho c hc
  have hnot := List.all_eq_true.mp (List.all_eq_true.mp hall o ho) c hc
  simpa using hnot

namespace Scanner

/-! ## What is read next -/

/-- Characters that the scanner does not read as a part of a token outside of strings. -/
def breakers : List Char :=
  '\\' :: boundaries

variable {s : Scanner} {c : Char} {rest y z : Text}

/-- The kinds of tokens by their first character. -/
theorem scanWithin_cons (e : s.here.rest = c :: rest) (hc : c ∉ breakers) :
    s.scanWithin =
      if c.isDigit || (c = '.' && rest.head?.any Char.isDigit) then scanWithin.number s
      else if c = '"' || c = '\'' then s.scanString [] c rest
      else if mayContinue c then s.scanName s.here.rest
      else s.scanOperator c rest := by
  simp only [breakers, boundaries, List.mem_cons, List.not_mem_nil, or_false, not_or] at hc
  obtain ⟨hback, hspace, htab, hfeed, hhash, hbreak⟩ := hc
  unfold scanWithin
  split
  · next hnil =>
    rw [hnil] at e
    cases e
  · next d more hmore =>
    rw [hmore] at e
    cases e
    simp only [hback, hspace, htab, hfeed, hhash, hbreak, decide_false, Bool.or_self,
      Bool.false_eq_true, if_false]
    cases hdigit : c.isDigit with
    | true => simp
    | false => simp

/-- From every text that is the same up to a boundary, with the same brackets open, the scanner
reads the same token. -/
structure Reads (s : Scanner) (y : Text) (kind : Kind) (taken : Text) (brackets : List Bracket) :
    Prop where
  step : ∀ (t : Scanner) (z : Text), t.brackets = s.brackets → t.here.line = s.here.line →
    t.here.rest = y ++ z → Boundary z →
      t.scanWithin = .within
        ({ t with brackets := brackets }.push kind taken (y.drop taken.length ++ z))
  isPrefix : taken <+: y
  plain : Plain taken

theorem reads_number (hy : y = c :: rest) (hc : c ∉ breakers)
    (hdigit : c.isDigit || (c = '.' && rest.head?.any Char.isDigit)) {taken : Text}
    (h : readNumber (numberText y) = .ok taken) : Reads s y .number taken s.brackets := by
  subst hy
  have hfirst : c.isDigit = true ∨ c = '.' := by
    simp only [Bool.or_eq_true, Bool.and_eq_true, decide_eq_true_eq] at hdigit
    exact hdigit.imp id And.left
  have htext := h
  rw [numberText_cons hfirst] at htext
  obtain ⟨used, left, hused, rfl, hnumeral⟩ := exists_of_readNumber hfirst htext
  have hpre : c :: used <+: c :: rest := by
    have htaken : c :: used <+: numberText (c :: rest) := by
      rw [numberText_cons hfirst, hused]
      exact ⟨left, rfl⟩
    exact htaken.trans ( List.takeWhile_prefix _)
  refine ⟨fun t z hbrackets _ e hz => ?_, hpre, plain_of_isNumeral (List.cons_ne_nil _ _) hnumeral⟩
  have hcons : t.here.rest = c :: (rest ++ z) := e
  rw [scanWithin_cons hcons hc, head?_any_boundary isDigit_boundary hz, if_pos hdigit]
  have hsame : numberText t.here.rest = numberText (c :: rest) := by
    rw [e]
    exact takeWhile_boundary number_boundary hz
  rw [number_of_ok (hsame ▸ h), e, List.drop_append_of_le_length hpre.length_le, ← hbrackets]

/-- A string starts here, with these letters before its quote. -/
structure Opens (mark : Text) (q : Char) : Prop where
  quote : q = '"' ∨ q = '\''
  chars : ∀ d ∈ mark, d ≠ '#' ∧ d ≠ '"' ∧ d ≠ '\''
  step : ∀ (t : Scanner) (rest : Text), t.here.rest = mark ++ q :: rest →
    t.scanWithin = t.scanString mark q rest

theorem opens_nil {q : Char} (hq : q = '"' ∨ q = '\'') : Opens [] q := by
  refine ⟨hq, List.forall_mem_nil _, fun t rest e => ?_⟩
  have hquote : q ∉ breakers ∧ q.isDigit = false ∧ q ≠ '.' := by
    obtain rfl | rfl := hq
    all_goals decide
  have hif : (decide (q = '"') || decide (q = '\'')) = true := by simpa using hq
  rw [scanWithin_cons e hquote.1]
  simp [hquote.2.1, hquote.2.2, hif]

/-- How a name, a keyword or a string with letters before it is read. -/
theorem scanWithin_name (e : s.here.rest = c :: rest) (hc : c ∉ breakers)
    (hdigit : c.isDigit = false) (hmay : mayContinue c = true) :
    s.scanWithin = s.scanName s.here.rest := by
  obtain ⟨-, hdouble, hsingle⟩ := mayContinue_ne hmay
  have hdot : c ≠ '.' := by
    rintro rfl
    exact absurd hmay (by decide)
  rw [scanWithin_cons e hc]
  simp [hdigit, hdot, hdouble, hsingle, hmay]

theorem opens_name {mark : Text} {q : Char} (hq : q = '"' ∨ q = '\'') (hmark : mark = c :: rest)
    (hall : ∀ d ∈ mark, mayContinue d = true) (hc : c ∉ breakers) (hdigit : c.isDigit = false)
    (hstring : isStringMark mark = true) : Opens mark q := by
  refine ⟨hq, fun d hd => mayContinue_ne (hall d hd), fun t more e => ?_⟩
  have hend : mayContinue q = false := by
    obtain rfl | rfl := hq
    all_goals decide
  have hcons : t.here.rest = c :: (rest ++ q :: more) := by rw [e, hmark]; rfl
  have htake : (mark ++ q :: more).takeWhile mayContinue = mark := by
    rw [List.takeWhile_append_of_pos hall, List.takeWhile_cons_of_neg (by simp [hend]),
      List.append_nil]
  have hdrop : (mark ++ q :: more).dropWhile mayContinue = q :: more := by
    rw [List.dropWhile_append_of_pos hall, List.dropWhile_cons_of_neg (by simp [hend])]
  have hif : (decide (q = '"') || decide (q = '\'')) = true := by simpa using hq
  rw [scanWithin_name hcons hc hdigit (hall c (hmark ▸ List.mem_cons_self)), e]
  unfold scanName
  simp only [htake, hdrop, hif, hstring, Bool.and_self, if_true]

/-- Letters that no string follows make a name. -/
theorem scanWithin_eq_name (hy : y = c :: rest) (hc : c ∉ breakers) (hdigit : c.isDigit = false)
    (hmay : mayContinue c = true)
    (hmark : isStringMark (y.takeWhile mayContinue) = true →
      ∀ q, (y.dropWhile mayContinue).head? = some q → q ≠ '"' ∧ q ≠ '\'')
    (e : s.here.rest = y ++ z) (hz : Boundary z) :
    s.scanWithin = scanName.name s (y.takeWhile mayContinue) (y.dropWhile mayContinue ++ z) := by
  have hcons : s.here.rest = c :: (rest ++ z) := by rw [e, hy]; rfl
  rw [scanWithin_name hcons hc hdigit hmay, e]
  unfold scanName
  simp only [takeWhile_boundary mayContinue_boundary hz, dropWhile_boundary mayContinue_boundary hz]
  split
  · next d more hmore =>
    split
    · next hquote =>
      -- what follows the letters is no quote, in the text or at the boundary
      simp only [Bool.and_eq_true, Bool.or_eq_true, decide_eq_true_eq] at hquote
      exfalso
      have hhead : (y.dropWhile mayContinue ++ z).head? = some d := by rw [hmore]; rfl
      cases hdw : y.dropWhile mayContinue with
      | nil =>
        rw [hdw, List.nil_append] at hhead
        obtain ⟨b, hb, hz⟩ := hz
        obtain rfl : b = d := Option.some.inj (hz.symm.trans hhead)
        obtain rfl | rfl := hquote.1
        all_goals exact absurd hb (by decide)
      | cons q rest =>
        rw [hdw] at hhead
        have hq := hmark hquote.2 d (by rw [hdw]; exact hhead)
        exact hquote.1.elim hq.1 hq.2
    · rfl
  · rfl

theorem reads_name (hy : y = c :: rest) (hc : c ∉ breakers) (hdigit : c.isDigit = false)
    (hmay : mayContinue c = true)
    (hmark : isStringMark (y.takeWhile mayContinue) = true →
      ∀ q, (y.dropWhile mayContinue).head? = some q → q ≠ '"' ∧ q ≠ '\'')
    (hgood : badCharacter? (y.takeWhile mayContinue) = none) :
    Reads s y (if keywords.contains (y.takeWhile mayContinue) then .keyword else .name)
      (y.takeWhile mayContinue) s.brackets := by
  have hne : y.takeWhile mayContinue ≠ [] := by
    rw [hy, List.takeWhile_cons_of_pos hmay]
    exact List.cons_ne_nil _ _
  have hall : ∀ d ∈ y.takeWhile mayContinue, mayContinue d = true :=
    fun d hd => List.all_eq_true.mp List.all_takeWhile d hd
  have hdrop : y.drop (y.takeWhile mayContinue).length = y.dropWhile mayContinue :=
    (congrArg (List.drop _) List.takeWhile_append_dropWhile.symm).trans List.drop_left
  refine ⟨fun t z hbrackets _ e hz => ?_,  List.takeWhile_prefix _,
    plain_of_badCharacter? hne hall hgood⟩
  rw [scanWithin_eq_name hy hc hdigit hmay hmark e hz, hdrop, ← hbrackets]
  unfold scanName.name
  rw [hgood]

theorem find?_boundary {os : List Text} (hos : ∀ o ∈ os, ∀ d ∈ o, d ∉ boundaries)
    (hz : Boundary z) : os.find? (·.isPrefixOf (y ++ z)) = os.find? (·.isPrefixOf y) := by
  induction os with
  | nil => rfl
  | cons o os ih =>
    obtain ⟨ho, hos⟩ := List.forall_mem_cons.mp hos
    rw [List.find?_cons, List.find?_cons, isPrefixOf_boundary ho hz, ih hos]

theorem readOperator_boundary (brackets : List Bracket) (line : Nat) (hz : Boundary z) :
    readOperator brackets line c (rest ++ z) = readOperator brackets line c rest := by
  unfold readOperator
  rw [← List.cons_append, find?_boundary longOperators_boundary hz]

/-- An operator, or a bracket with what it does to the brackets that are open. -/
theorem reads_operator (hy : y = c :: rest) (hc : c ∉ breakers)
    (hdigit : (c.isDigit || (c = '.' && rest.head?.any Char.isDigit)) = false)
    (hquote : c ≠ '"' ∧ c ≠ '\'') (hmay : mayContinue c = false) :
    (∃ fault line eager, ∀ z, Boundary z → s.here.rest = y ++ z →
        s.scanWithin = .done (s.stopAt fault line eager))
      ∨ ∃ kind taken brackets, Reads s y kind taken brackets := by
  have hstep (t : Scanner) (z : Text) (hz : Boundary z) (e : t.here.rest = y ++ z) :
      t.scanWithin
        = t.operatorNext (y ++ z) (readOperator t.brackets t.here.line c rest) := by
    have hcons : y ++ z = c :: (rest ++ z) := by rw [hy]; rfl
    rw [scanWithin_cons (e.trans hcons) hc, head?_any_boundary isDigit_boundary hz, hdigit, hcons,
      ← readOperator_boundary _ _ hz, ← scanOperator_eq]
    simp [hquote.1, hquote.2, hmay]
  cases h : readOperator s.brackets s.here.line c rest with
  | error fault =>
    refine .inl ⟨fault, s.here.line, true, fun z hz e => ?_⟩
    rw [hstep s z hz e, h]
    rfl
  | ok out =>
    obtain ⟨taken, brackets⟩ := out
    have hpre : taken <+: y := hy ▸ prefix_of_readOperator h
    refine .inr ⟨.operator, taken, brackets, fun t z hbrackets hline e hz => ?_, hpre, ?_⟩
    · rw [hstep t z hz e, hbrackets, hline, h, operatorNext,
        List.drop_append_of_le_length hpre.length_le]
    · obtain ⟨hmem, -⟩ | ⟨rfl, hprint⟩ := cases_of_readOperator h
      · exact plain_longOperators taken hmem
      · simp only [breakers, boundaries, List.mem_cons, List.not_mem_nil, or_false, not_or] at hc
        exact plain_singleton hmay hprint hc.2.1 hc.2.2.2.2.1 hquote

/-- What the scanner does with a text up to a boundary that starts with a token: it stops, it reads
the same token from all such texts, or a string starts. -/
theorem scanWithin_cases (hy : y = c :: rest) (hc : c ∉ breakers) (e : s.here.rest = y ++ z)
    (hz : Boundary z) :
    (∃ fault line eager, s.scanWithin = .done (s.stopAt fault line eager))
      ∨ (∃ kind taken brackets, Reads s y kind taken brackets)
      ∨ ∃ mark q more, y = mark ++ q :: more ∧ Opens mark q := by
  have hcons : s.here.rest = c :: (rest ++ z) := by rw [e, hy]; rfl
  cases hdigit : c.isDigit || (c = '.' && rest.head?.any Char.isDigit) with
  | true =>
    have hsame : numberText s.here.rest = numberText y := by
      rw [e]
      exact takeWhile_boundary number_boundary hz
    cases h : readNumber (numberText y) with
    | ok taken => exact .inr (.inl ⟨_, _, _, reads_number hy hc hdigit h⟩)
    | error fault =>
      refine .inl ⟨fault, s.here.line, true, ?_⟩
      rw [scanWithin_cons hcons hc, head?_any_boundary isDigit_boundary hz, if_pos hdigit,
        number_of_error (hsame ▸ h)]
  | false =>
    by_cases hquote : c = '"' ∨ c = '\''
    · exact .inr (.inr ⟨[], c, rest, hy, opens_nil hquote⟩)
    have hfirst : c.isDigit = false := (Bool.or_eq_false_iff.mp hdigit).1
    cases hmay : mayContinue c with
    | false =>
      obtain ⟨fault, line, eager, h⟩ | h := reads_operator hy hc hdigit (not_or.mp hquote) hmay
      · exact .inl ⟨fault, line, eager, h z hz e⟩
      · exact .inr (.inl h)
    | true =>
      have htake : y.takeWhile mayContinue = c :: rest.takeWhile mayContinue := by
        rw [hy, List.takeWhile_cons_of_pos hmay]
      by_cases hmark : isStringMark (y.takeWhile mayContinue) = true →
          ∀ q, (y.dropWhile mayContinue).head? = some q → q ≠ '"' ∧ q ≠ '\''
      · cases hgood : badCharacter? (y.takeWhile mayContinue) with
        | none => exact .inr (.inl ⟨_, _, _, reads_name hy hc hfirst hmay hmark hgood⟩)
        | some b =>
          refine .inl ?_
          rw [scanWithin_eq_name hy hc hfirst hmay hmark e hz]
          unfold scanName.name
          rw [hgood]
          exact ⟨_, _, _, rfl⟩
      · simp only [Classical.not_imp, not_forall] at hmark
        obtain ⟨hstring, q, hhead, hq⟩ := hmark
        obtain ⟨more, hmore⟩ := List.head?_eq_some_iff.mp hhead
        refine .inr (.inr ⟨y.takeWhile mayContinue, q, more, ?_, ?_⟩)
        · rw [← hmore, List.takeWhile_append_dropWhile]
        · refine opens_name ?_ htake ?_ hc hfirst hstring
          · by_contra h
            exact hq (not_or.mp h)
          · exact fun d hd => List.all_eq_true.mp List.all_takeWhile d hd

end Scanner

end CodeReview.Source.Token
