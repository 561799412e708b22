import CodeReview.Analysis.Security
import Mathlib.Data.List.Induction

/-!
# What a report shows of a secret

A line that holds a secret is shown with the middle of its quoted texts hidden. Which quotes belong
together is decided from the left over the whole line, and a quote that could not hide anything is
looked at as an opening one. So the quote before a value may close what an earlier quote has opened,
and then the value stands between two texts that are looked at, and is shown as it is.

`openQuote` reads a text from the left and says which quote is open at its end. A report keeps a
value to itself just if the quote before the value opens a text.
-/

namespace CodeReview.Analysis

/-! ## One quoted text -/

theorem takeWhile_unquoted {t r : Text} (h : ∀ c ∈ t, isQuote c = false)
    (hr : ∀ c, r.head? = some c → isQuote c = true) :
    (t ++ r).takeWhile (fun c => !isQuote c) = t := by
  induction t with
  | nil =>
    cases r with
    | nil => rfl
    | cons c r =>
      have hc := hr c rfl
      simp [hc]
  | cons c t ih =>
    have hc := h c List.mem_cons_self
    have hrest := ih fun d hd => h d (List.mem_cons_of_mem _ hd)
    simp [hc, hrest]

/-- Passing over characters is leaving them out. -/
theorem maskAux_eq_drop (n : Nat) (t : Text) : maskAux n t = maskSecrets (t.drop n) := by
  induction n generalizing t with
  | zero => rfl
  | succ n ih =>
    cases t with
    | nil => simp [maskSecrets, maskAux]
    | cons c cs => rw [maskAux, ih, List.drop_succ_cons]

/-- What is shown of a quoted text that is long enough. -/
def masked (q : Char) (t : Text) : Text :=
  q :: (t.take 4 ++ "****" ++ t.drop (t.length - 2) ++ [q])

theorem maskSecrets_cons {c : Char} (h : isQuote c = false) (r : Text) :
    maskSecrets (c :: r) = c :: maskSecrets r := by
  simp [maskSecrets, maskAux, h]

theorem maskSecrets_unquoted {t : Text} (h : ∀ c ∈ t, isQuote c = false) (r : Text) :
    maskSecrets (t ++ r) = t ++ maskSecrets r := by
  induction t with
  | nil => rfl
  | cons c t ih =>
    have hrest := ih fun d hd => h d (List.mem_cons_of_mem _ hd)
    rw [List.cons_append, maskSecrets_cons (h c List.mem_cons_self), hrest, List.cons_append]

section

variable {q : Char} (hq : isQuote q = true) {t : Text} (ht : ∀ c ∈ t, isQuote c = false)
include hq ht

/-- A long text between two quotes that are alike is hidden. -/
theorem maskSecrets_hidden (hlong : 6 ≤ t.length) (r : Text) :
    maskSecrets (q :: (t ++ q :: r)) = masked q t ++ maskSecrets r := by
  have hinside : (t ++ q :: r).takeWhile (fun c => !isQuote c) = t :=
    takeWhile_unquoted ht fun c hc => by
      obtain rfl := Option.some.inj hc
      exact hq
  have hclosed : ((t ++ q :: r).drop t.length).head? = some q := by simp
  have hrest : (t ++ q :: r).drop (t.length + 1) = r := by simp
  rw [maskSecrets, maskAux, if_pos hq]
  simp only [hinside, hclosed, hlong, decide_true, Bool.and_self, if_true]
  rw [maskAux_eq_drop, hrest]
  rfl

/-- A quote before a text that is too short, or ends with the other quote, hides nothing. -/
theorem maskSecrets_shown {c : Char} (hc : isQuote c = true) (h : ¬(q = c ∧ 6 ≤ t.length))
    (r : Text) : maskSecrets (q :: (t ++ c :: r)) = q :: (t ++ maskSecrets (c :: r)) := by
  have hinside : (t ++ c :: r).takeWhile (fun d => !isQuote d) = t :=
    takeWhile_unquoted ht fun d hd => by
      obtain rfl := Option.some.inj hd
      exact hc
  have hclosed : ((t ++ c :: r).drop t.length).head? = some c := by simp
  have hnot : ¬((decide (6 ≤ t.length) && decide (some c = some q)) = true) := by
    rw [Bool.and_eq_true, decide_eq_true_eq, decide_eq_true_eq]
    rintro ⟨hlong, heq⟩
    exact h ⟨(Option.some.inj heq).symm, hlong⟩
  rw [maskSecrets, maskAux, if_pos hq]
  simp only [hinside, hclosed]
  rw [if_neg hnot]
  exact congrArg (q :: ·) (maskSecrets_unquoted ht (c :: r))

end

/-! ## The open quote -/

/-- One more character. A quote closes an open quote that is like it if there is enough to hide
between them, and otherwise opens a text itself. -/
def openStep (opened : Option (Char × Text)) (c : Char) : Option (Char × Text) :=
  if isQuote c then
    match opened with
    | some (q, t) => if q = c ∧ 6 ≤ t.length then none else some (c, [])
    | none => some (c, [])
  else opened.map fun o => (o.1, o.2 ++ [c])

/-- The quote that is open at the end of a text, with what follows it. -/
def openQuote (t : Text) : Option (Char × Text) :=
  t.foldl openStep none

/-- What is not settled yet at the end of a text. -/
def unsettled : Option (Char × Text) → Text
  | some (q, t) => q :: t
  | none => []

section

variable {c : Char}

theorem openStep_plain (h : isQuote c = false) (opened : Option (Char × Text)) :
    openStep opened c = opened.map fun o => (o.1, o.2 ++ [c]) := by
  simp [openStep, h]

theorem openStep_none (h : isQuote c = true) : openStep none c = some (c, []) := by
  simp [openStep, h]

theorem openStep_some (h : isQuote c = true) (q : Char) (t : Text) :
    openStep (some (q, t)) c = if q = c ∧ 6 ≤ t.length then none else some (c, []) := by
  simp [openStep, h]

/-- A quote closes what is open or opens an empty text. -/
theorem openStep_quote (h : isQuote c = true) (opened : Option (Char × Text)) :
    openStep opened c = none ∨ openStep opened c = some (c, []) := by
  cases opened with
  | none => exact .inr (openStep_none h)
  | some o =>
    rw [openStep_some h]
    split
    · exact .inl rfl
    · exact .inr rfl

end

theorem openQuote_append_singleton (p : Text) (c : Char) :
    openQuote (p ++ [c]) = openStep (openQuote p) c := by
  rw [openQuote, List.foldl_append]
  rfl

/-- An open quote is a quote, and no quote follows it. -/
theorem openQuote_spec {p : Text} {q : Char} {t : Text} (h : openQuote p = some (q, t)) :
    isQuote q = true ∧ ∀ c ∈ t, isQuote c = false := by
  induction p using List.reverseRecOn generalizing q t with
  | nil => exact nomatch h
  | append_singleton p c ih =>
    rw [openQuote_append_singleton] at h
    by_cases hc : isQuote c = true
    · have hnew : some (c, []) = some (q, t) := by
        rcases openStep_quote hc (openQuote p) with hnone | hsome
        · exact nomatch hnone.symm.trans h
        · exact hsome.symm.trans h
      obtain ⟨rfl, rfl⟩ := Prod.mk.inj (Option.some.inj hnew)
      exact ⟨hc, List.forall_mem_nil _⟩
    · rw [openStep_plain (Bool.eq_false_iff.mpr hc)] at h
      obtain ⟨o, ho, heq⟩ := Option.map_eq_some_iff.mp h
      obtain ⟨rfl, rfl⟩ := Prod.mk.inj heq
      obtain ⟨hquote, hplain⟩ := ih ho
      refine ⟨hquote, List.forall_mem_append.mpr ⟨hplain, ?_⟩⟩
      rw [List.forall_mem_singleton]
      exact Bool.eq_false_iff.mpr hc

/-- What is shown of the start of a line is settled, up to what follows an open quote. -/
theorem exists_settled (p : Text) : ∃ shown : Text, ∀ r : Text,
    maskSecrets (p ++ r) = shown ++ maskSecrets (unsettled (openQuote p) ++ r) := by
  induction p using List.reverseRecOn with
  | nil => exact ⟨[], fun r => rfl⟩
  | append_singleton p c ih =>
    obtain ⟨shown, hshown⟩ := ih
    have hsplit : ∀ r : Text, maskSecrets (p ++ [c] ++ r)
        = shown ++ maskSecrets (unsettled (openQuote p) ++ c :: r) := by
      intro r
      rw [List.append_assoc, List.singleton_append, hshown]
    rw [openQuote_append_singleton]
    by_cases hc : isQuote c = true
    · cases hopen : openQuote p with
      | none =>
        -- The quote opens a text, about which nothing is settled.
        refine ⟨shown, fun r => ?_⟩
        rw [hsplit, hopen, openStep_none hc]
        rfl
      | some o =>
        obtain ⟨q, t⟩ := o
        obtain ⟨hq, ht⟩ := openQuote_spec hopen
        rw [openStep_some hc]
        by_cases hclose : q = c ∧ 6 ≤ t.length
        · -- The quote closes a text, which is hidden.
          rw [if_pos hclose]
          obtain ⟨rfl, hlong⟩ := hclose
          refine ⟨shown ++ masked q t, fun r => ?_⟩
          have hhidden := maskSecrets_hidden hq ht hlong r
          rw [hsplit, hopen, unsettled, List.cons_append, hhidden, List.append_assoc]
          rfl
        · -- The quote opens a text, and what was open before is shown.
          rw [if_neg hclose]
          refine ⟨shown ++ q :: t, fun r => ?_⟩
          have hplain := maskSecrets_shown hq ht hc hclose r
          rw [hsplit, hopen, unsettled, List.cons_append, hplain]
          simp [unsettled]
    · have hplain := Bool.eq_false_iff.mpr hc
      rw [openStep_plain hplain]
      cases hopen : openQuote p with
      | none =>
        refine ⟨shown ++ [c], fun r => ?_⟩
        have hone := maskSecrets_cons hplain r
        rw [hsplit, hopen, unsettled, List.nil_append, hone]
        simp [unsettled]
      | some o =>
        refine ⟨shown, fun r => ?_⟩
        rw [hsplit, hopen]
        simp [unsettled]

/-! ## Blanks around a line -/

theorem isBlank_of_isQuote {q : Char} (h : isQuote q = true) : Text.isBlank q = false := by
  rw [isQuote, Bool.or_eq_true, decide_eq_true_eq, decide_eq_true_eq] at h
  rcases h with rfl | rfl
  · decide
  · decide

theorem dropWhile_append_cons {α : Type} {test : α → Bool} {a : α} (h : test a = false)
    (xs ys : List α) : (xs ++ a :: ys).dropWhile test = xs.dropWhile test ++ a :: ys := by
  induction xs with
  | nil => simp [h]
  | cons x xs ih =>
    rw [List.cons_append, List.dropWhile_cons, List.dropWhile_cons, ih]
    split
    · rfl
    · rfl

/-- Cutting blanks off a line leaves a quoted text alone. -/
theorem strip_quoted {q : Char} (h : isQuote q = true) (p v s : Text) :
    Text.strip (p ++ q :: (v ++ q :: s))
      = Text.stripLeft p ++ q :: (v ++ q :: Text.stripRight s) := by
  have hblank := isBlank_of_isQuote h
  have hright : ∀ a : Text, Text.stripRight (a ++ q :: s) = a ++ q :: Text.stripRight s := by
    intro a
    rw [Text.stripRight, Text.dropRightWhile, List.reverse_append, List.reverse_cons,
      List.append_assoc, List.singleton_append, dropWhile_append_cons hblank, List.reverse_append,
      List.reverse_cons, List.reverse_reverse, List.append_assoc, List.singleton_append]
    rfl
  have hleft : Text.stripLeft (p ++ q :: (v ++ q :: s))
      = Text.stripLeft p ++ q :: (v ++ q :: s) := dropWhile_append_cons hblank p _
  have hone := hright (Text.stripLeft p ++ q :: v)
  rw [Text.strip, hleft]
  simpa using hone

theorem openQuote_stripLeft (p r : Text) :
    openQuote (Text.stripLeft p ++ r) = openQuote (p ++ r) := by
  induction p with
  | nil => rfl
  | cons c p ih =>
    rw [Text.stripLeft, List.dropWhile_cons]
    split
    · rename_i hblank
      -- A blank is no quote, so nothing is open after it.
      have hplain : isQuote c = false := by
        by_contra hquote
        rw [isBlank_of_isQuote (Bool.not_eq_false _ ▸ hquote)] at hblank
        exact absurd hblank (by decide)
      change openQuote (Text.stripLeft p ++ r) = _
      rw [ih, openQuote, openQuote, List.cons_append, List.foldl_cons, openStep_plain hplain]
      rfl
    · rfl

/-! ## What the report shows -/

theorem code_of_mem_secretIssues {path : Text} {number : Nat} {line : Text} {i : Issue}
    (h : i ∈ secretIssues path number line) : i.code = maskSecrets (Text.strip line) := by
  unfold secretIssues at h
  split at h
  · exact absurd h List.not_mem_nil
  split at h
  · exact absurd h List.not_mem_nil
  split at h
  · exact absurd h List.not_mem_nil
  · rw [List.mem_singleton.mp h]

section

variable {q : Char} (hq : isQuote q = true) (p s : Text)
include hq

/-- The quote before a value opens a text: of the value the first four characters and the last two
are shown. -/
theorem exists_hidden (hopen : openQuote (p ++ [q]) ≠ none) : ∃ before after : Text,
    ∀ v : Text, (∀ c ∈ v, isQuote c = false) → 6 ≤ v.length →
      maskSecrets (Text.strip (p ++ q :: (v ++ q :: s))) = before ++ masked q v ++ after := by
  obtain ⟨shown, hshown⟩ := exists_settled (Text.stripLeft p ++ [q])
  refine ⟨shown, maskSecrets (Text.stripRight s), fun v hv hlong => ?_⟩
  have hnew : openQuote (Text.stripLeft p ++ [q]) = some (q, []) := by
    rw [openQuote_stripLeft, openQuote_append_singleton] at *
    exact (openStep_quote hq (openQuote p)).resolve_left hopen
  have hwhole := hshown (v ++ q :: Text.stripRight s)
  rw [hnew, unsettled, List.singleton_append, maskSecrets_hidden hq hv hlong,
    List.append_assoc, List.singleton_append] at hwhole
  rw [strip_quoted hq, hwhole, List.append_assoc]

/-- The quote before a value closes a text: the value is shown as it is. -/
theorem exists_exposed (hopen : openQuote (p ++ [q]) = none) : ∃ before after : Text,
    ∀ v : Text, (∀ c ∈ v, isQuote c = false) →
      maskSecrets (Text.strip (p ++ q :: (v ++ q :: s))) = before ++ v ++ after := by
  obtain ⟨shown, hshown⟩ := exists_settled (Text.stripLeft p ++ [q])
  refine ⟨shown, maskSecrets (q :: Text.stripRight s), fun v hv => ?_⟩
  have hwhole := hshown (v ++ q :: Text.stripRight s)
  rw [openQuote_stripLeft, hopen, unsettled, List.nil_append, maskSecrets_unquoted hv,
    List.append_assoc, List.singleton_append] at hwhole
  rw [strip_quoted hq, hwhole, List.append_assoc]

end

/-- Two values that begin and end alike look alike in a report just if the quote before them opens a
text. If it closes one, the report shows the values themselves. -/
theorem secretIssues_code_eq_iff {path path' : Text} {number number' : Nat} {p s v v' : Text}
    {q : Char} {i i' : Issue} (hq : isQuote q = true)
    (hv : ∀ c ∈ v, isQuote c = false) (hv' : ∀ c ∈ v', isQuote c = false)
    (hlong : 7 ≤ v.length) (hlong' : 7 ≤ v'.length) (hfirst : v.take 4 = v'.take 4)
    (hlast : v.drop (v.length - 2) = v'.drop (v'.length - 2))
    (hi : i ∈ secretIssues path number (p ++ q :: (v ++ q :: s)))
    (hi' : i' ∈ secretIssues path' number' (p ++ q :: (v' ++ q :: s))) :
    (i.code = i'.code ↔ openQuote (p ++ [q]) ≠ none ∨ v = v')
      ∧ (openQuote (p ++ [q]) = none → v <:+: i.code ∧ v' <:+: i'.code) := by
  rw [code_of_mem_secretIssues hi, code_of_mem_secretIssues hi']
  by_cases hopen : openQuote (p ++ [q]) = none
  · obtain ⟨before, after, hshown⟩ := exists_exposed hq p s hopen
    rw [hshown v hv, hshown v' hv']
    refine ⟨?_, fun _ => ⟨⟨before, after, rfl⟩, ⟨before, after, rfl⟩⟩⟩
    rw [List.append_left_inj, List.append_right_inj]
    exact ⟨.inr, fun h => h.resolve_left fun hne => hne hopen⟩
  · obtain ⟨before, after, hshown⟩ := exists_hidden hq p s hopen
    rw [hshown v hv (by omega), hshown v' hv' (by omega)]
    refine ⟨iff_of_true ?_ (.inl hopen), fun h => absurd h hopen⟩
    rw [masked, masked, hfirst, hlast]

/-- A line with a value, after a short text in quotes of the other kind. -/
def mixedLine (value : Text) : Text :=
  "x['k'] = api_key = " ++ '"' :: (value ++ '"' :: "  # old")

theorem secretIssues_code_eq_iff_mixedLine :
    ∃ i ∈ secretIssues "a.py" 1 (mixedLine "hunter42ab"),
      ∃ i' ∈ secretIssues "a.py" 1 (mixedLine "hunt-the-snark-ab"), i.code = i'.code := by
  have hfound : ∃ i, i ∈ secretIssues "a.py" 1 (mixedLine "hunter42ab") :=
    List.exists_mem_of_ne_nil _ (by decide +kernel)
  have hfound' : ∃ i, i ∈ secretIssues "a.py" 1 (mixedLine "hunt-the-snark-ab") :=
    List.exists_mem_of_ne_nil _ (by decide +kernel)
  obtain ⟨i, hi⟩ := hfound
  obtain ⟨i', hi'⟩ := hfound'
  have hopens : openQuote ("x['k'] = api_key = " ++ ['"']) ≠ none := by decide
  have hsame := secretIssues_code_eq_iff (by decide) (by simp [isQuote]) (by simp [isQuote])
    (by decide) (by decide) (by decide) (by decide) hi hi'
  exact ⟨i, hi, i', hi', hsame.1.mpr (.inl hopens)⟩

/-- A line with a value, after a short text in quotes of the same kind. -/
def alikeLine (value : Text) : Text :=
  "x[\"k\"] = password = " ++ '"' :: (value ++ ['"'])

/-- The quote before the value closes what the second quote of the line has opened, and the whole
value is shown. -/
theorem secretIssues_code_differs :
    (secretIssues "a.py" 1 (alikeLine "hunter42ab")).map (·.code)
        = ["x[\"k\"] = ****= \"hunter42ab\"".toList]
      ∧ (secretIssues "a.py" 1 (alikeLine "hunt-the-snark-ab")).map (·.code)
        = ["x[\"k\"] = ****= \"hunt-the-snark-ab\"".toList] := by
  decide +kernel

end CodeReview.Analysis
