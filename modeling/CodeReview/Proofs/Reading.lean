import CodeReview.Proofs.Comments

/-!
# Sources that are read to the end

A source is read twice: the parser looks for a tree, and a simpler reading of the lines looks for
comments. A text that the parser rejects is answered with one error and without a tree. The second
reading has no such answer, and where it gives up there is no answer at all. It gives up in two
cases only: at a line that returns to an indentation that was never entered, and at the end of a
text whose last line leaves a bracket, a string or a continued line open. In a text without strings,
comments, continued and indented lines only brackets can be left open, and counting them tells.
-/

namespace CodeReview.Source

namespace Comment

variable {s s' : Scan} {l : Text} {ls : List Text} {n : Nat}

/-- The next line is the first of a statement: no bracket, string or continued line is open. -/
structure Scan.BetweenStatements (s : Scan) : Prop where
  string : s.string = none
  brackets : s.brackets = 0
  continued : s.continued = false

/-- There is more in the line than its indentation, a comment or its end. -/
def HasCode (l : Text) : Prop :=
  ∃ c rest, l.drop (indentation 0 0 l).2 = c :: rest ∧ c ≠ '#' ∧ c ≠ '\x0d' ∧ c ≠ '\n'

/-- The line starts a statement to the left of the last one, at an indentation that was never
entered. -/
structure Scan.Strays (s : Scan) (l : Text) : Prop where
  between : s.BetweenStatements
  hasCode : HasCode l
  left : (indentation 0 0 l).1 < s.indents.headD 0
  inside : (indentation 0 0 l).1 ≠ 0
  never : (indentation 0 0 l).1 ∉ s.indents

/-- The lines are read from the first state to the second; the number is that of the first line. -/
inductive Reads : Nat → List Text → Scan → Scan → Prop
  | done {n : Nat} {s : Scan} : Reads n [] s s
  | line {n : Nat} {l : Text} {ls : List Text} {s s₁ s' : Scan} :
      scanLine n l s = some s₁ → Reads (n + 1) ls s₁ s' → Reads n (l :: ls) s s'

theorem reads_nil_iff : Reads n [] s s' ↔ s' = s := by
  constructor
  · rintro ⟨⟩
    rfl
  · rintro rfl
    exact .done

theorem reads_cons_iff {s₁ : Scan} (h : scanLine n l s = some s₁) :
    Reads n (l :: ls) s s' ↔ Reads (n + 1) ls s₁ s' := by
  constructor
  · intro hreads
    cases hreads with
    | line hline hrest =>
      rw [h, Option.some.injEq] at hline
      rwa [hline]
  · exact .line h

/-- Some line strays. -/
def StraysIn (n : Nat) (ls : List Text) (s : Scan) : Prop :=
  ∃ before l after s', ls = before ++ l :: after ∧ Reads n before s s' ∧ s'.Strays l

/-- The lines are read, and the last one leaves something open. -/
def LeftOpen (n : Nat) (ls : List Text) (s : Scan) : Prop :=
  ∃ s', Reads n ls s s' ∧ ¬ s'.BetweenStatements

/-- The reading for comments does not come to the end of the text. -/
def GivesUp (source : Text) : Prop :=
  StraysIn 1 (linesWithEnds source) .start ∨ LeftOpen 1 (linesWithEnds source) .start

theorem betweenStatements_iff :
    s.BetweenStatements ↔ (s.brackets = 0 ∧ s.continued = false) ∧ s.string = none := by
  constructor
  · rintro ⟨hstring, hbrackets, hcontinued⟩
    exact ⟨⟨hbrackets, hcontinued⟩, hstring⟩
  · rintro ⟨⟨hbrackets, hcontinued⟩, hstring⟩
    exact ⟨hstring, hbrackets, hcontinued⟩

/-- Where something is open the indentation of a line does not count, and the line is read. -/
theorem scanLine_ne_none (h : ¬ s.BetweenStatements) : scanLine n l s ≠ none := by
  intro hnone
  unfold scanLine at hnone
  split at hnone
  case h_1 =>
    split at hnone
    · exact Option.some_ne_none _ hnone
    · dsimp only at hnone
      split_ifs at hnone
  case h_2 hstring =>
    have hopen : ¬ (s.brackets = 0 ∧ s.continued = false) := fun hboth =>
      h (betweenStatements_iff.mpr ⟨hboth, hstring⟩)
    rw [if_neg (by simpa using hopen)] at hnone
    exact Option.some_ne_none _ hnone

/-- Only code has an indentation to compare: one that is on the left has to be an old one. -/
theorem scanLine_eq_none_iff_of_between (h : s.BetweenStatements) :
    scanLine n l s = none ↔
      HasCode l ∧ (indentation 0 0 l).1 < s.indents.headD 0 ∧ (indentation 0 0 l).1 ≠ 0 ∧
        (indentation 0 0 l).1 ∉ s.indents := by
  unfold scanLine HasCode
  rw [h.string, h.brackets, h.continued]
  dsimp only [decide_true, Bool.not_false, Bool.and_self]
  rw [if_pos (by decide)]
  cases l.drop (indentation 0 0 l).2 with
  | nil => simp
  | cons c rest =>
    dsimp only
    by_cases hplain : c ≠ '#' ∧ c ≠ '\x0d' ∧ c ≠ '\n'
    · have hcode : ∃ c' rest', c :: rest = c' :: rest' ∧ c' ≠ '#' ∧ c' ≠ '\x0d' ∧ c' ≠ '\n' :=
        ⟨c, rest, rfl, hplain⟩
      rw [if_neg hplain.1, if_neg (by simp [hplain.2]), Option.map_eq_none_iff,
        and_iff_right hcode]
      by_cases hdeeper : s.indents.headD 0 < (indentation 0 0 l).1
      · rw [if_pos hdeeper]
        exact iff_of_false (Option.some_ne_none _) fun hleft => by omega
      · rw [if_neg hdeeper]
        simp [and_assoc]
    · refine iff_of_false (fun hnone => hplain ?_) fun hcode => ?_
      · by_cases hsign : c = '#'
        · rw [if_pos hsign] at hnone
          exact absurd hnone (Option.some_ne_none _)
        · by_cases hend : c = '\x0d' ∨ c = '\n'
          · rw [if_neg hsign, if_pos (by simpa using hend)] at hnone
            exact absurd hnone (Option.some_ne_none _)
          · exact ⟨hsign, not_or.mp hend⟩
      · obtain ⟨⟨c', rest', heq, hplain'⟩, -⟩ := hcode
        rw [List.cons.injEq] at heq
        exact hplain (heq.1 ▸ hplain')

/-- One line: reading is given up just where the line strays. -/
theorem scanLine_eq_none_iff : scanLine n l s = none ↔ s.Strays l := by
  constructor
  · intro hnone
    have hbetween : s.BetweenStatements := by
      by_contra hopen
      exact scanLine_ne_none hopen hnone
    obtain ⟨hcode, hleft, hinside, hnever⟩ := (scanLine_eq_none_iff_of_between hbetween).mp hnone
    exact ⟨hbetween, hcode, hleft, hinside, hnever⟩
  · rintro ⟨hbetween, hcode, hleft, hinside, hnever⟩
    exact (scanLine_eq_none_iff_of_between hbetween).mpr ⟨hcode, hleft, hinside, hnever⟩

theorem straysIn_nil : ¬ StraysIn n [] s := by
  rintro ⟨before, l, after, -, hls, -⟩
  exact absurd hls.symm (List.append_ne_nil_of_right_ne_nil _ (List.cons_ne_nil _ _))

theorem straysIn_cons_of_strays (h : s.Strays l) : StraysIn n (l :: ls) s :=
  ⟨[], l, ls, s, rfl, .done, h⟩

/-- A line that is read is not the one that strays, so that one comes after it. -/
theorem straysIn_cons_iff {s₁ : Scan} (h : scanLine n l s = some s₁) :
    StraysIn n (l :: ls) s ↔ StraysIn (n + 1) ls s₁ := by
  constructor
  · rintro ⟨before, x, after, t, hls, hreads, hstrays⟩
    cases before with
    | nil =>
      rw [List.nil_append, List.cons.injEq] at hls
      have hnone : scanLine n l s = none := by
        rw [hls.1, scanLine_eq_none_iff, ← reads_nil_iff.mp hreads]
        exact hstrays
      exact absurd (hnone.symm.trans h) (Option.some_ne_none _).symm
    | cons b before =>
      rw [List.cons_append, List.cons.injEq] at hls
      obtain ⟨rfl, rfl⟩ := hls
      exact ⟨before, x, after, t, rfl, (reads_cons_iff h).mp hreads, hstrays⟩
  · rintro ⟨before, x, after, t, rfl, hreads, hstrays⟩
    exact ⟨l :: before, x, after, t, rfl, .line h hreads, hstrays⟩

/-- All lines, by induction on them from any state: reading is given up just where a line strays
or the end leaves something open. -/
theorem scanLines_eq_none_iff : scanLines n ls s = none ↔ StraysIn n ls s ∨ LeftOpen n ls s := by
  induction ls generalizing n s with
  | nil =>
    have hend : LeftOpen n [] s ↔ ¬ s.BetweenStatements := by
      simp only [LeftOpen, reads_nil_iff, exists_eq_left]
    rw [or_iff_right straysIn_nil, hend, betweenStatements_iff, scanLines]
    cases s.string <;> simp
  | cons l ls ih =>
    rw [scanLines]
    cases hline : scanLine n l s with
    | none => simp [straysIn_cons_of_strays (scanLine_eq_none_iff.mp hline)]
    | some s₁ =>
      show scanLines (n + 1) ls s₁ = none ↔ _
      simp only [ih, straysIn_cons_iff hline, LeftOpen, reads_cons_iff hline]

theorem all?_eq_none_iff {source : Text} : all? source = none ↔ GivesUp source := by
  rw [all?, Option.map_eq_none_iff, scanLines_eq_none_iff, GivesUp]

/-! ## Texts whose brackets can be counted -/

/-- What a character adds to the number of open brackets. -/
def change (c : Char) : Int :=
  if c = '(' || c = '[' || c = '\x7b' then 1
  else if c = ')' || c = ']' || c = '\x7d' then -1
  else 0

/-- Opening brackets less closing ones, whatever their kinds. -/
def net : Text → Int
  | [] => 0
  | c :: t => change c + net t

theorem net_append (t u : Text) : net (t ++ u) = net t + net u := by
  induction t with
  | nil => simp [net]
  | cons c t ih => simp only [List.cons_append, net, ih, Int.add_assoc]

/-- The character starts no comment, string or continuation, and is no carriage return. -/
def IsPlain (c : Char) : Prop :=
  c ≠ '#' ∧ c ≠ '\\' ∧ c ≠ '"' ∧ c ≠ '\'' ∧ c ≠ '\x0d'

instance (c : Char) : Decidable (IsPlain c) :=
  inferInstanceAs (Decidable (_ ∧ _))

/-- The line has no indentation. -/
def IsFlat (l : Text) : Prop :=
  ∀ c ∈ l.head?, c ≠ ' ' ∧ c ≠ '\t' ∧ c ≠ '\x0c'

/-- There are no comments, strings, continued or indented lines. -/
structure Plain (source : Text) : Prop where
  plain : ∀ c ∈ source, IsPlain c
  flat : ∀ l ∈ Text.lines source, IsFlat l

/-- A line of a plain text as the reading sees it: the sign of its end stands at its end only. -/
structure PlainLine (l : Text) : Prop where
  plain : ∀ c ∈ l, IsPlain c
  flat : IsFlat l
  endsOnce : ∃ body : Text, '\n' ∉ body ∧ (l = body ∨ l = body ++ ['\n'])

/-- Nothing but brackets is open, and no block was entered. -/
structure Scan.OnlyBrackets (s : Scan) : Prop where
  string : s.string = none
  continued : s.continued = false
  indents : s.indents = []

theorem scanTokens_of_plain {number col : Nat} (h : ∀ c ∈ l, IsPlain c) (hn : l.length ≤ n) :
    scanTokens number n col l s = { s with brackets := s.brackets + net l } := by
  induction l generalizing n col s with
  | nil => cases n <;> simp [scanTokens, net]
  | cons c l ih =>
    obtain ⟨m, rfl⟩ : ∃ m, n = m + 1 := ⟨n - 1, by rw [List.length_cons] at hn; omega⟩
    obtain ⟨hsign, hback, hdouble, hsingle, -⟩ := h c List.mem_cons_self
    have hrest : ∀ s' : Scan, scanTokens number m (col + 1) l s'
        = { s' with brackets := s'.brackets + net l } := fun s' =>
      ih (fun c' hc' => h c' (List.mem_cons_of_mem c hc')) (Nat.le_of_succ_le_succ hn)
    simp only [scanTokens, hsign, hback, hdouble, hsingle, hrest, net, change, decide_false,
      Bool.false_and, Bool.or_self, Bool.false_eq_true, ↓reduceIte]
    split_ifs <;> simp [Int.add_assoc, Int.sub_eq_add_neg]

theorem indentation_of_flat (h : IsFlat l) : indentation 0 0 l = (0, 0) := by
  cases l with
  | nil => rfl
  | cons c rest =>
    obtain ⟨hspace, htab, hfeed⟩ := h c rfl
    rw [indentation]
    · exact fun _ heq => hspace (List.cons.inj heq).1
    · exact fun _ heq => htab (List.cons.inj heq).1
    · exact fun _ heq => hfeed (List.cons.inj heq).1

theorem PlainLine.eq_nil {rest : Text} (h : PlainLine ('\n' :: rest)) : rest = [] := by
  obtain ⟨body, hbody, heq | heq⟩ := h.endsOnce
  · exact absurd (heq ▸ List.mem_cons_self) hbody
  · cases body with
    | nil => exact (List.cons.inj heq).2
    | cons c body => exact absurd ((List.cons.inj heq).1 ▸ List.mem_cons_self) hbody

/-- A plain line has no other effect than to open and close brackets. -/
theorem scanLine_of_plain (hs : s.OnlyBrackets) (hl : PlainLine l) :
    scanLine n l s = some { s with brackets := s.brackets + net l } := by
  obtain ⟨brackets, continued, string, mustContinue, indents, found⟩ := s
  obtain rfl : string = none := hs.string
  obtain rfl : continued = false := hs.continued
  obtain rfl : indents = [] := hs.indents
  unfold scanLine
  dsimp only
  by_cases hbrackets : brackets = 0
  · rw [if_pos (by simp [hbrackets]), indentation_of_flat hl.flat]
    cases l with
    | nil => simp [net]
    | cons c rest =>
      show (if c = '#' then _ else _) = _
      obtain ⟨hsign, -, -, -, hreturn⟩ := hl.plain c List.mem_cons_self
      rw [if_neg hsign]
      by_cases hend : c = '\n'
      · -- Nothing stands after the end of the line, so no bracket is passed over.
        obtain rfl : rest = [] := PlainLine.eq_nil (hend ▸ hl)
        rw [if_pos (by simp [hend]), hend]
        simp [net, change]
      · rw [if_neg (by simp [hreturn, hend])]
        show some (scanTokens _ _ _ _ _) = _
        rw [scanTokens_of_plain hl.plain (by rw [List.length_cons]; omega)]
        rfl
  · rw [if_neg (by simp [hbrackets]), scanTokens_of_plain hl.plain (Nat.le_succ _)]

/-- Plain lines, by induction on them: reading comes to the end if the brackets cancel out. -/
theorem scanLines_of_plain (hs : s.OnlyBrackets) (hlines : ∀ l ∈ ls, PlainLine l) :
    scanLines n ls s = none ↔ s.brackets + net ls.flatten ≠ 0 := by
  induction ls generalizing n s with
  | nil => simp [scanLines, net, hs.string, hs.continued]
  | cons l ls ih =>
    obtain ⟨hl, hls⟩ := List.forall_mem_cons.mp hlines
    have hafter : Scan.OnlyBrackets { s with brackets := s.brackets + net l } :=
      ⟨hs.string, hs.continued, hs.indents⟩
    rw [scanLines, scanLine_of_plain hs hl, List.flatten_cons, net_append, ← Int.add_assoc]
    exact ih hafter hls

theorem linesWithEnds_of_lines {t last : Text} {before : List Text}
    (h : Text.lines t = before ++ [last]) :
    linesWithEnds t
      = before.map (· ++ ['\n']) ++ if last.isEmpty then [] else [last] := by
  unfold linesWithEnds
  rw [h, List.reverse_append, List.reverse_singleton, List.singleton_append]
  dsimp only
  rw [List.reverse_reverse]
  split_ifs
  · rw [List.append_nil]
  · rfl

theorem exists_lines (t : Text) : ∃ before last, Text.lines t = before ++ [last] :=
  ⟨_, _, (List.dropLast_append_getLast (Text.lines_ne_nil t)).symm⟩

theorem flatten_linesWithEnds (t : Text) : (linesWithEnds t).flatten = t := by
  obtain ⟨before, last, hlines⟩ := exists_lines t
  calc (linesWithEnds t).flatten
      = ends before ++ last := by
        rw [linesWithEnds_of_lines hlines, List.flatten_append, ← List.flatMap_def, ends]
        cases last <;> simp
    _ = Text.unlines (Text.lines t) := by rw [hlines, unlines_concat]
    _ = t := Text.unlines_lines t

/-- A line with its end is a line of the text, with the sign of its end or without it. -/
theorem exists_mem_lines {t : Text} (h : l ∈ linesWithEnds t) :
    ∃ body ∈ Text.lines t, l = body ∨ l = body ++ ['\n'] := by
  obtain ⟨before, last, hlines⟩ := exists_lines t
  rw [linesWithEnds_of_lines hlines, List.mem_append] at h
  rw [hlines]
  rcases h with hended | hlast
  · obtain ⟨body, hbody, rfl⟩ := List.mem_map.mp hended
    exact ⟨body, List.mem_append_left _ hbody, .inr rfl⟩
  · split_ifs at hlast
    · exact absurd hlast List.not_mem_nil
    · exact ⟨last, List.mem_append_right _ List.mem_cons_self, .inl (List.mem_singleton.mp hlast)⟩

theorem isFlat_concat {body : Text} (h : IsFlat body) : IsFlat (body ++ ['\n']) := by
  cases body with
  | nil =>
    rintro c ⟨⟩
    decide
  | cons c body => exact h

/-- A plain text is given up just if its brackets do not cancel out. -/
theorem givesUp_iff_of_plain {source : Text} (h : Plain source) :
    GivesUp source ↔ net source ≠ 0 := by
  have hlines : ∀ l ∈ linesWithEnds source, PlainLine l := by
    intro l hl
    obtain ⟨body, hbody, heq⟩ := exists_mem_lines hl
    refine ⟨fun c hc => h.plain c ?_, ?_, body, Text.not_mem_of_mem_lines hbody, heq⟩
    · rw [← flatten_linesWithEnds source]
      exact List.mem_flatten.mpr ⟨l, hl, hc⟩
    · rcases heq with rfl | rfl
      · exact h.flat _ hbody
      · exact isFlat_concat (h.flat _ hbody)
  rw [← all?_eq_none_iff, all?, Option.map_eq_none_iff, scanLines_of_plain ⟨rfl, rfl, rfl⟩ hlines,
    flatten_linesWithEnds]
  simp [Scan.start]

end Comment

variable {source : Text}

theorem readSource_of_all?_eq_none (h : Comment.all? source = none) :
    readSource source = .error .commentsLost := by
  rw [readSource, commentsOf, h]
  rfl

/-- Without NUL characters it is the grammar alone that rejects, and it names one fault. -/
theorem parse_of_not_accepts (hnul : '\x00' ∉ source) (h : ¬ Accepts source) :
    ∃ d, parseTree source = .error d ∧ parse source = .faulty d := by
  have hparse : parse source = _ := if_neg (by simpa using hnul)
  cases htree : parseTree source with
  | ok tree =>
    rw [htree] at hparse
    exact absurd ⟨tree, hparse⟩ h
  | error d =>
    rw [htree] at hparse
    exact ⟨d, rfl, hparse⟩

/-- A source that is read has the answer of the parser, with the comments beside it. -/
theorem readSource_of_all?_eq_some {cs : List Comment} (h : Comment.all? source = some cs) :
    readSource source = .ok ⟨(parse source).tree?, (parse source).errors, cs⟩ := by
  rw [readSource, commentsOf, h]
  rfl

theorem valid_answer_iff (cs : List Comment) :
    ReadSource.valid ⟨(parse source).tree?, (parse source).errors, cs⟩ = true ↔ Accepts source := by
  unfold ReadSource.valid Accepts
  cases parse source with
  | tree n => simp [Parsed.tree?, Parsed.errors]
  | faulty d => simp [Parsed.tree?]
  | unreadable => simp [Parsed.tree?]

theorem answer_of_not_accepts (hnul : '\x00' ∉ source) (h : ¬ Accepts source) :
    (parse source).tree? = none ∧
      ∃ d, parseTree source = .error d ∧ (parse source).errors = [d.report] := by
  obtain ⟨d, hfault, hparse⟩ := parse_of_not_accepts hnul h
  rw [hparse]
  exact ⟨rfl, d, hfault, rfl⟩

/-- A text without NUL characters has an answer just if the reading for comments comes to its end,
and the answer is valid just if the parser accepts the text. Where it does not, the answer has no
tree and one error, that of the fault which the parser names. A plain text has an answer just if its
brackets cancel out. -/
theorem readSource_answers_iff (hnul : '\x00' ∉ source) :
    ((∃ r, readSource source = .ok r) ↔ ¬ Comment.GivesUp source) ∧
      (Comment.GivesUp source → readSource source = .error .commentsLost) ∧
      (∀ r, readSource source = .ok r →
        (r.valid = true ↔ Accepts source) ∧
        (¬ Accepts source →
          r.tree = none ∧ ∃ d, parseTree source = .error d ∧ r.errors = [d.report])) ∧
      (Comment.Plain source → (Comment.GivesUp source ↔ Comment.net source ≠ 0)) := by
  have hlost : Comment.GivesUp source → readSource source = .error .commentsLost := fun hgives =>
    readSource_of_all?_eq_none (Comment.all?_eq_none_iff.mpr hgives)
  cases hall : Comment.all? source with
  | none =>
    have hgives : Comment.GivesUp source := Comment.all?_eq_none_iff.mp hall
    have hnone : ¬ ∃ r, readSource source = .ok r := by simp [hlost hgives]
    exact ⟨iff_of_false hnone (not_not_intro hgives), hlost, fun r hr => absurd ⟨r, hr⟩ hnone,
      Comment.givesUp_iff_of_plain⟩
  | some cs =>
    have hanswer := readSource_of_all?_eq_some hall
    have hreads : ¬ Comment.GivesUp source := by simp [← Comment.all?_eq_none_iff, hall]
    refine ⟨iff_of_true ⟨_, hanswer⟩ hreads, hlost, ?_, Comment.givesUp_iff_of_plain⟩
    intro r hr
    obtain rfl : _ = r := Except.ok.inj (hanswer.symm.trans hr)
    exact ⟨valid_answer_iff cs, answer_of_not_accepts hnul⟩

/-- The brackets are of two kinds, which only the parser minds. -/
def mixedBrackets : Text :=
  "f(x]"

theorem not_accepts_mixedBrackets : ¬ Accepts mixedBrackets := by
  rw [← treeOf_eq_none_iff, ← Option.isNone_iff_eq_none]
  decide +kernel

theorem plain_mixedBrackets : Comment.Plain mixedBrackets where
  plain := by
    have hall : mixedBrackets.all (fun c => decide (Comment.IsPlain c)) = true := by decide +kernel
    intro c hc
    exact of_decide_eq_true (List.all_eq_true.mp hall c hc)
  flat := by
    have hline : Text.lines mixedBrackets = [mixedBrackets] := by decide +kernel
    rw [hline]
    intro l hl c hc
    rw [List.mem_singleton.mp hl] at hc
    cases hc
    decide

theorem readSource_answers_mixedBrackets :
    '\x00' ∉ mixedBrackets ∧ Comment.Plain mixedBrackets ∧ Comment.net mixedBrackets = 0 ∧
      ∃ r, readSource mixedBrackets = .ok r ∧ r.valid = false ∧ r.tree = none ∧
        ∃ d, parseTree mixedBrackets = .error d ∧ r.errors = [d.report] := by
  have hnul : '\x00' ∉ mixedBrackets := by decide
  have hnet : Comment.net mixedBrackets = 0 := by decide
  obtain ⟨hanswers, -, hall, hplain⟩ := readSource_answers_iff hnul
  have hreads : ¬ Comment.GivesUp mixedBrackets := fun hgives =>
    (hplain plain_mixedBrackets).mp hgives hnet
  obtain ⟨r, hr⟩ := hanswers.mpr hreads
  obtain ⟨hvalid, hfaulty⟩ := hall r hr
  have hinvalid : r.valid = false :=
    Bool.eq_false_iff.mpr (mt hvalid.mp not_accepts_mixedBrackets)
  exact ⟨hnul, plain_mixedBrackets, hnet, r, hr, hinvalid, hfaulty not_accepts_mixedBrackets⟩

/-- The parser goes on with the indentation that follows a continued line, the reading for comments
takes the sign of continuation for a statement without indentation. -/
def continuedMargin : Text :=
  "if a:\n if b:\n  x\n\\\n  y\n  z\n w\n"

/-- There is no answer for an open bracket, and none for some text that the parser accepts. -/
theorem readSource_without_answer :
    readSource "(" = .error .commentsLost ∧
      Accepts continuedMargin ∧ readSource continuedMargin = .error .commentsLost := by
  have haccepts : Accepts continuedMargin := by
    rw [← not_not (a := Accepts _), ← treeOf_eq_none_iff, ← Option.isNone_iff_eq_none]
    decide +kernel
  exact ⟨readSource_of_all?_eq_none (by decide +kernel), haccepts,
    readSource_of_all?_eq_none (by decide +kernel)⟩

end CodeReview.Source
