import CodeReview.Proofs.Placement
import CodeReview.Proofs.Steps

/-!
# Steps of the scanner

What one step of the scanner can do is said once, for a step within a line (`Moves`) and for a step
at the start of a line (`Starts`). A token that is read there has characters of its own and does not
end with a line feed. So every step but the last makes what is left of the text smaller, the bound
on the number of steps is never reached, and a run can be taken apart step by step without it.
-/

namespace CodeReview.Source

/-! ## Places in a text -/

theorem breaks_cons (c : Char) (t : Text) :
    breaks (c :: t) = breaks t + if c = '\n' then 1 else 0 := by
  rw [breaks, List.countP_cons]
  simp only [decide_eq_true_eq]
  rfl

theorem breaks_append (s t : Text) : breaks (s ++ t) = breaks s + breaks t :=
  List.countP_append

namespace Token

theorem breaks_foldl (taken : Text) (p : Nat × Nat) :
    (taken.foldl (fun (p : Nat × Nat) ch =>
      if ch = '\n' then (p.1 + 1, 0) else (p.1, p.2 + ch.utf8Size)) p).1 = p.1 + breaks taken := by
  induction taken generalizing p with
  | nil => rfl
  | cons c taken ih =>
    rw [List.foldl_cons, ih, breaks_cons]
    split
    · omega
    · rfl

theorem past_rest (c : Cursor) (taken rest : Text) : (c.past taken rest).rest = rest := by
  unfold Cursor.past
  dsimp only
  split <;> rfl

theorem past_line (c : Cursor) (taken rest : Text) :
    (c.past taken rest).line
      = c.line + breaks taken - if rest = [] ∧ taken.getLast? = some '\n' then 1 else 0 := by
  unfold Cursor.past
  dsimp only
  by_cases h : rest = [] ∧ taken.getLast? = some '\n'
  · rw [if_pos (by simp [h.1, h.2]), if_pos h, breaks_foldl]
  · rw [if_neg (by simpa using h), if_neg h, breaks_foldl]
    rfl

theorem length_past_lt {c : Cursor} {taken rest : Text} (e : c.rest = taken ++ rest)
    (ht : taken ≠ []) : (c.past taken rest).rest.length < c.rest.length := by
  have hpos : 0 < taken.length := List.length_pos_iff.mpr ht
  rw [past_rest, e, List.length_append]
  omega

/-! ## Numbers -/

/-- A range of characters with all that a number can have and neither blanks, quotes nor `#`. -/
def IsNumeral (c : Char) : Prop :=
  '+'.toNat ≤ c.toNat ∧ c.toNat ≤ 'z'.toNat

instance (c : Char) : Decidable (IsNumeral c) := inferInstanceAs (Decidable (_ ∧ _))

/-- A reader of numbers goes from the one text to the other. -/
def Skips (text rest : Text) : Prop :=
  ∃ used, text = used ++ rest ∧ ∀ c ∈ used, IsNumeral c

namespace Skips

variable {c : Char} {s t u : Text}

theorem refl (t : Text) : Skips t t := ⟨[], rfl, fun _ h => absurd h List.not_mem_nil⟩

theorem trans (h : Skips s t) (h' : Skips t u) : Skips s u := by
  obtain ⟨a, rfl, ha⟩ := h
  obtain ⟨b, rfl, hb⟩ := h'
  refine ⟨a ++ b, (List.append_assoc ..).symm, fun c hc => ?_⟩
  exact (List.mem_append.mp hc).elim (ha c) (hb c)

theorem cons (hc : IsNumeral c) (h : Skips s t) : Skips (c :: s) t :=
  trans ⟨[c], rfl, fun _ h => List.mem_singleton.mp h ▸ hc⟩ h

end Skips

theorem isNumeral_of_le {a b c : Char} (ha : IsNumeral a) (hb : IsNumeral b) (hac : a ≤ c)
    (hcb : c ≤ b) : IsNumeral c :=
  ⟨Nat.le_trans ha.1 hac, Nat.le_trans hcb hb.2⟩

theorem isNumeral_of_isDigit {c : Char} (h : c.isDigit = true) : IsNumeral c := by
  simp only [Char.isDigit, Bool.and_eq_true, decide_eq_true_eq] at h
  exact isNumeral_of_le (by decide : IsNumeral '0') (by decide : IsNumeral '9') h.1 h.2

theorem isNumeral_of_isHex {c : Char} (h : isHex c = true) : IsNumeral c := by
  simp only [isHex, Bool.or_eq_true, Bool.and_eq_true, decide_eq_true_eq] at h
  obtain (h | h) | h := h
  · exact isNumeral_of_isDigit h
  · exact isNumeral_of_le (by decide) (by decide) h.1 h.2
  · exact isNumeral_of_le (by decide) (by decide) h.1 h.2

/-- One of two characters of numbers. -/
theorem isNumeral_of_or {a b c : Char} (ha : IsNumeral a) (hb : IsNumeral b)
    (h : (decide (c = a) || decide (c = b)) = true) : IsNumeral c := by
  simp only [Bool.or_eq_true, decide_eq_true_eq] at h
  obtain rfl | rfl := h
  · exact ha
  · exact hb

theorem numberEnd_eq {kind rest out : Text} (h : numberEnd kind rest = .ok out) : out = rest := by
  unfold numberEnd at h
  dsimp only at h
  split at h
  · cases h
    rfl
  · split at h
    · cases h
    · cases h
      rfl

variable {text rest : Text}

theorem skips_decimals (h : skipDecimals text = .ok rest) :
    Skips text rest := by
  fun_induction skipDecimals text with
  | case1 d rest hd ih => exact .cons (by decide) (ih h)
  | case2 => cases h
  | case3 => cases h
  | case4 c rest _ _ hd ih => exact .cons (isNumeral_of_isDigit hd) (ih h)
  | case5 =>
    cases h
    exact .refl _
  | case6 =>
    cases h
    exact .refl _

theorem skips_radix {isDigit : Char → Bool} (hdigit : ∀ c, isDigit c = true → IsNumeral c)
    {kind : Text} {state : DigitState}
    (h : skipRadix isDigit kind state text = .ok rest) : Skips text rest := by
  fun_induction skipRadix isDigit kind state text with
  | case1 =>
    cases h
    exact .refl _
  | case2 => cases h
  | case3 _ c rest hc ih => exact .cons (hdigit c hc) (ih h)
  | case4 => cases h
  | case5 rest _ _ ih => exact .cons (by decide) (ih h)
  | case6 rest _ _ ih => exact .cons (by decide) (ih h)
  | case7 =>
    cases h
    exact .refl _
  | case8 => cases h

theorem skips_imaginary (h : skipImaginary text = .ok rest) :
    Skips text rest := by
  unfold skipImaginary at h
  split at h
  · exact .cons (by decide) (numberEnd_eq h ▸ .refl _)
  · exact .cons (by decide) (numberEnd_eq h ▸ .refl _)
  · exact numberEnd_eq h ▸ .refl _

/-- Digits with what can follow them. -/
theorem skips_decimals_then {next : Text → Except Fault Text}
    (hnext : ∀ {s t}, next s = .ok t → Skips s t) (h : (skipDecimals text >>= next) = .ok rest) :
    Skips text rest := by
  obtain ⟨_, hd, h⟩ := Steps.bind_ok h
  exact (skips_decimals hd).trans (hnext h)

theorem skips_exponent (h : skipExponent text = .ok rest) :
    Skips text rest := by
  unfold skipExponent at h
  extract_lets go at h
  -- an exponent ends where its digits do, or is none and left for what comes next
  have hgo {e : Char} (he : IsNumeral e) {after : Text} (h : go e after = .ok rest) :
      Skips (e :: after) rest := by
    simp only [go] at h
    split at h
    · next s d more =>
      split at h
      · next hsign =>
        have hs : IsNumeral s := isNumeral_of_or (by decide) (by decide) hsign
        split at h
        · exact .cons he (.cons hs (skips_decimals_then skips_imaginary h))
        · cases h
      · split at h
        · exact .cons he (skips_decimals_then skips_imaginary h)
        · exact numberEnd_eq h ▸ .refl _
    · next s =>
      split at h
      · cases h
      · split at h
        · next hdigit =>
          cases h
          exact .cons he (.cons (isNumeral_of_isDigit hdigit) (.refl _))
        · exact numberEnd_eq h ▸ .refl _
    · exact numberEnd_eq h ▸ .refl _
  split at h
  · exact hgo (by decide) h
  · exact hgo (by decide) h
  · exact skips_imaginary h

theorem skips_fraction (h : skipFraction text = .ok rest) :
    Skips text rest := by
  unfold skipFraction at h
  split at h
  · split at h
    · exact skips_decimals_then skips_exponent h
    · exact skips_exponent h
  · cases h
    exact .refl _

theorem skips_tail (h : skipTail text = .ok rest) : Skips text rest := by
  unfold skipTail at h
  split at h
  · exact .cons (by decide) (skips_fraction h)
  · exact skips_exponent h

theorem skips_zeros (h : skipZeros text = .ok rest) : Skips text rest := by
  fun_induction skipZeros text with
  | case1 d rest hd ih => exact .cons (by decide) (ih h)
  | case2 => cases h
  | case3 => cases h
  | case4 rest ih => exact .cons (by decide) (ih h)
  | case5 =>
    cases h
    exact .refl _

theorem skips_zeroNumber (h : skipZeroNumber text = .ok rest) :
    Skips text rest := by
  unfold skipZeroNumber at h
  obtain ⟨_, hz, h⟩ := Steps.bind_ok h
  refine (skips_zeros hz).trans ?_
  split at h
  · split at h
    · refine skips_decimals_then (fun {s t} hs => ?_) h
      split at hs
      all_goals first
        | exact skips_tail hs
        | cases hs
    · exact skips_tail h
  · cases h
    exact .refl _

/-- At least the first digit is read. -/
theorem skips_number {c : Char} (hc : c.isDigit = true)
    (h : skipNumber (c :: text) = .ok rest) : Skips text rest := by
  have hradix {isDigit : Char → Bool} {kind text : Text}
      (hdigit : ∀ c, isDigit c = true → IsNumeral c)
      (h : (skipRadix isDigit kind .first text >>= numberEnd kind) = .ok rest) :
      Skips text rest := by
    obtain ⟨_, hr, h⟩ := Steps.bind_ok h
    exact numberEnd_eq h ▸ skips_radix hdigit hr
  unfold skipNumber at h
  dsimp only at h
  split at h
  · next d more heq =>
    cases heq
    split at h
    · next hd =>
      exact .cons (isNumeral_of_or (by decide) (by decide) hd)
        (hradix (fun c => isNumeral_of_isHex) h)
    split at h
    · next hd =>
      refine .cons (isNumeral_of_or (by decide) (by decide) hd) (hradix (fun c hc => ?_) h)
      simp only [isOctal, Bool.and_eq_true, decide_eq_true_eq] at hc
      exact isNumeral_of_le (by decide) (by decide) hc.1 hc.2
    split at h
    · next hd =>
      exact .cons (isNumeral_of_or (by decide) (by decide) hd)
        (hradix (fun c => isNumeral_of_or (by decide) (by decide)) h)
    · exact skips_zeroNumber h
  · have hstep : skipDecimals (c :: text) = skipDecimals text := by
      have hunder : c ≠ '_' := by
        rintro rfl
        exact absurd hc (by decide)
      rw [skipDecimals, if_pos hc]
      · exact fun d more heq => absurd heq hunder
      · exact fun heq => absurd heq hunder
    rw [hstep] at h
    exact skips_decimals_then skips_tail h

/-! ## Tokens that are read -/

/-- The token does not end the tokens of a text. -/
def isInner (t : Token) : Bool :=
  match t.kind with
  | .finish => false
  | .stop _ => false
  | _ => true

theorem isFinish_of_isInner {t : Token} (h : t.isInner = true) : t.isFinish = false := by
  obtain ⟨kind, _⟩ := t
  cases kind <;> first | rfl | cases h

theorem kind_of_isInner {t : Token} (h : t.isInner = true) (why : Stop) : t.kind ≠ .stop why := by
  intro hkind
  simp [isInner, hkind] at h

namespace Scanner

variable {s : Scanner} {c : Char} {taken rest : Text}

theorem eq_takeWhile_append (p : Char → Bool) (text : Text) :
    text = text.takeWhile p ++ text.drop (text.takeWhile p).length :=
  (List.prefix_iff_eq_append.mp ( List.takeWhile_prefix p)).symm

theorem getLast?_ne_break {taken : Text} (h : ∀ c ∈ taken, c ≠ '\n') :
    taken.getLast? ≠ some '\n' := fun e =>
  h _ (List.mem_of_getLast? e) rfl

/-- What reading a string gives: the part of the text that was taken, held backwards before `acc`,
what is left, and whether the string was closed. A closed one ends with its quote. -/
def Took (quote : Char) (acc text : Text) (r : Text × Text × Bool) : Prop :=
  ∃ taken, r.1 = taken ++ acc ∧ taken.reverse ++ r.2.1 = text ∧
    (r.2.2 = true → taken.head? = some quote)

theorem Took.cons {quote c : Char} {acc cs : Text} {r : Text × Text × Bool}
    (h : Took quote (c :: acc) cs r) : Took quote acc (c :: cs) r := by
  obtain ⟨taken, hacc, htext, hclosed⟩ := h
  refine ⟨taken ++ [c], by simp [hacc], by simp [htext], fun hr => ?_⟩
  rw [List.head?_append, hclosed hr, Option.some_or]

theorem took_stringBody (quote : Char) (size seen : Nat) (escaped : Bool) (acc text : Text) :
    Took quote acc text (stringBody quote size seen escaped acc text) := by
  fun_induction stringBody quote size seen escaped acc text with
  | case1 => exact ⟨[], rfl, rfl, nofun⟩
  | case2 _ _ _ _ ih => exact ih.cons
  | case3 => exact ⟨[], rfl, rfl, nofun⟩
  | case4 => exact ⟨[quote], rfl, rfl, fun _ => rfl⟩
  | case5 _ _ _ _ _ _ _ ih => exact ih.cons
  | case6 _ _ _ _ _ _ _ _ ih => exact ih.cons

theorem took_readString (quote : Char) (rest : Text) :
    (readString quote (quote :: rest)).1 ++ (readString quote (quote :: rest)).2.1 = quote :: rest ∧
      ((readString quote (quote :: rest)).2.2.1 = true →
        (readString quote (quote :: rest)).1.getLast? = some quote) := by
  have hread (size : Nat) (text : Text) :
      (stringBody quote size 0 false (text.take size).reverse (text.drop size)).1.reverse
          ++ (stringBody quote size 0 false (text.take size).reverse (text.drop size)).2.1 = text ∧
        ((stringBody quote size 0 false (text.take size).reverse (text.drop size)).2.2 = true →
          (stringBody quote size 0 false (text.take size).reverse
            (text.drop size)).1.reverse.getLast? = some quote) := by
    obtain ⟨taken, hacc, htext, hclosed⟩ :=
      took_stringBody quote size 0 false (text.take size).reverse (text.drop size)
    rw [hacc]
    constructor
    · rw [List.reverse_append, List.reverse_reverse, List.append_assoc, htext,
        List.take_append_drop]
    · intro h
      rw [List.getLast?_reverse, List.head?_append, hclosed h, Option.some_or]
  unfold readString
  dsimp only
  split
  · next a b c rest' heq =>
    split
    · exact heq ▸ hread 3 _
    · split
      · next hab =>
        cases heq
        exact ⟨rfl, fun _ => by simp_all⟩
      · exact heq ▸ hread 1 _
  · next a b heq =>
    split
    · next hab =>
      cases heq
      exact ⟨rfl, fun _ => by simp_all⟩
    · exact heq ▸ hread 1 _
  · exact hread 1 _

/-- The characters that are looked at for a number. -/
abbrev numberText (text : Text) : Text :=
  text.takeWhile fun c => mayContinue c || c = '.' || c = '+' || c = '-'

/-- The number at the start of a text. -/
def readNumber (text : Text) : Except Fault Text :=
  let after := match text with
    | '.' :: rest => skipFraction rest
    | _ => skipNumber text
  after.map fun rest => text.take (text.length - rest.length)

theorem number_of_error {fault : Fault} (h : readNumber (numberText s.here.rest) = .error fault) :
    scanWithin.number s = .done (s.stopAt fault s.here.line true) := by
  unfold readNumber at h
  unfold scanWithin.number
  extract_lets after at h
  extract_lets text after'
  have hafter : after' = after := rfl
  rw [hafter]
  cases hcase : after with
  | error f =>
    rw [hcase] at h
    cases h
    rfl
  | ok left =>
    rw [hcase] at h
    cases h

theorem number_of_ok (h : readNumber (numberText s.here.rest) = .ok taken) :
    scanWithin.number s = .within (s.push .number taken (s.here.rest.drop taken.length)) := by
  unfold readNumber at h
  unfold scanWithin.number
  extract_lets after at h
  extract_lets text after'
  have hafter : after' = after := rfl
  rw [hafter]
  cases hcase : after with
  | error f =>
    rw [hcase] at h
    cases h
  | ok left =>
    rw [hcase] at h
    cases h
    rfl

/-- A number has its first character at least, and characters of numbers only. -/
theorem exists_of_readNumber {c : Char} {text : Text} (hc : c.isDigit = true ∨ c = '.')
    (h : readNumber (c :: text) = .ok taken) :
    ∃ used left, text = used ++ left ∧ taken = c :: used ∧ ∀ d ∈ taken, IsNumeral d := by
  have hnumeral : IsNumeral c := by
    obtain hc | rfl := hc
    · exact isNumeral_of_isDigit hc
    · decide
  unfold readNumber at h
  extract_lets after at h
  cases hafter : after with
  | error fault =>
    rw [hafter] at h
    cases h
  | ok left =>
    have hskips : Skips text left := by
      simp only [after] at hafter
      split at hafter
      · next heq =>
        cases heq
        exact skips_fraction hafter
      · next hdot =>
        obtain hc | rfl := hc
        · exact skips_number hc hafter
        · exact absurd rfl (hdot text)
    obtain ⟨used, rfl, hused⟩ := hskips
    rw [hafter] at h
    have htake : (c :: (used ++ left)).take ((c :: (used ++ left)).length - left.length)
        = c :: used := by
      rw [← List.cons_append, List.length_append, Nat.add_sub_cancel, List.take_left]
    obtain rfl : c :: used = taken := htake.symm.trans (Except.ok.inj h)
    exact ⟨used, left, rfl, rfl, List.forall_mem_cons.mpr ⟨hnumeral, hused⟩⟩

theorem numberText_cons {c : Char} (hc : c.isDigit = true ∨ c = '.') (rest : Text) :
    numberText (c :: rest) = c :: numberText rest := by
  refine List.takeWhile_cons_of_pos ?_
  obtain hc | rfl := hc
  · simp [mayContinue, Char.isAlphanum, hc]
  · decide

/-- The operator at the start of a text, with the brackets that are open behind it. -/
def readOperator (brackets : List Bracket) (line : Nat) (c : Char) (rest : Text) :
    Except Fault (Text × List Bracket) :=
  match longOperators.find? (·.isPrefixOf (c :: rest)) with
  | some o => .ok (o, brackets)
  | none =>
    if c = '(' || c = '[' || c = '\x7b' then
      if 200 ≤ brackets.length then .error .tooManyBrackets
      else .ok ([c], { char := c, line := line } :: brackets)
    else if c = ')' || c = ']' || c = '\x7d' then
      match brackets with
      | [] => .error (.unmatched c)
      | b :: outer =>
        if closes b.char c then .ok ([c], outer)
        else .error (.mismatched c b.char (if b.line = line then none else some b.line))
    else if !Text.isPrintable c then .error (.unprintableCharacter c)
    else .ok ([c], brackets)

/-- The scanner behind an operator that was read, or stopped before it. -/
def operatorNext (s : Scanner) (text : Text) : Except Fault (Text × List Bracket) → Next
  | .error fault => .done (s.stopAt fault s.here.line true)
  | .ok (taken, brackets) =>
    .within ({ s with brackets := brackets }.push .operator taken (text.drop taken.length))

theorem scanOperator_eq (s : Scanner) (c : Char) (rest : Text) :
    s.scanOperator c rest
      = s.operatorNext (c :: rest) (readOperator s.brackets s.here.line c rest) := by
  unfold scanOperator readOperator
  cases longOperators.find? (·.isPrefixOf (c :: rest)) with
  | some o => rfl
  | none =>
    dsimp only
    split
    · split <;> rfl
    split
    · cases s.brackets with
      | nil => rfl
      | cons b outer =>
        dsimp only
        split <;> rfl
    · split <;> rfl

/-- An operator is one of the long ones, or a single character that can be printed. -/
theorem cases_of_readOperator {brackets outer : List Bracket} {line : Nat}
    (h : readOperator brackets line c rest = .ok (taken, outer)) :
    (taken ∈ longOperators ∧ taken <+: c :: rest) ∨ (taken = [c] ∧ Text.isPrintable c = true) := by
  unfold readOperator at h
  split at h
  · next o ho =>
    cases h
    exact .inl ⟨List.mem_of_find?_eq_some ho,
      List.isPrefixOf_iff_prefix.mp (by simpa using List.find?_some ho)⟩
  split at h
  · next hopen =>
    split at h
    · cases h
    · cases h
      simp only [Bool.or_eq_true, decide_eq_true_eq] at hopen
      obtain (rfl | rfl) | rfl := hopen
      all_goals exact .inr ⟨rfl, by decide⟩
  split at h
  · next hclose =>
    split at h
    · cases h
    · split at h
      · cases h
        simp only [Bool.or_eq_true, decide_eq_true_eq] at hclose
        obtain (rfl | rfl) | rfl := hclose
        all_goals exact .inr ⟨rfl, by decide⟩
      · cases h
  split at h
  · cases h
  · next hprint =>
    cases h
    exact .inr ⟨rfl, by simpa using hprint⟩

theorem prefix_of_readOperator {brackets outer : List Bracket} {line : Nat}
    (h : readOperator brackets line c rest = .ok (taken, outer)) : taken <+: c :: rest := by
  obtain ⟨-, hpre⟩ | ⟨rfl, -⟩ := cases_of_readOperator h
  · exact hpre
  · exact ⟨rest, rfl⟩

/-! ## Steps within a line -/

/-- The scanner behind a part of the text that makes no token. -/
def skip (s : Scanner) (taken rest : Text) : Scanner :=
  { s with here := s.here.past taken rest }

/-- The end of a line makes a token outside of brackets. -/
def markBreak (s : Scanner) : Scanner :=
  if s.brackets.isEmpty then s.pushMark .newline else s

theorem markBreak_here (s : Scanner) : s.markBreak.here = s.here := by
  unfold markBreak
  split <;> rfl

/-- What a step within a line can do. -/
inductive Moves (s : Scanner) : Next → Prop where
  | stop (fault : Fault) (line : Nat) (eager : Bool) : Moves s (.done (s.stopAt fault line eager))
  | finish : Moves s (.done (s.pushMark .finish).found.reverse)
  | skip {taken rest : Text} (e : s.here.rest = taken ++ rest) (ht : taken ≠ []) :
    Moves s (.within (s.skip taken rest))
  | token (brackets : List Bracket) {kind : Kind} {taken rest : Text}
    (e : s.here.rest = taken ++ rest) (ht : taken ≠ []) (hend : taken.getLast? ≠ some '\n')
    (hkind : ∀ t : Token, t.kind = kind → t.isInner = true) :
    Moves s (.within ({ s with brackets := brackets }.push kind taken rest))
  | lineEnd {rest : Text} (e : s.here.rest = '\n' :: rest) :
    Moves s (.line (s.markBreak.skip ['\n'] rest))

theorem moves_scanString (mark : Text) {quote : Char} (e : s.here.rest = mark ++ quote :: rest)
    (hquote : quote ≠ '\n') : Moves s (s.scanString mark quote rest) := by
  obtain ⟨htext, hclosed⟩ := took_readString quote rest
  unfold scanString
  dsimp only
  split
  · next hr =>
    -- A string that is closed ends with its quote, so neither is it empty nor does a line end it.
    have hlast : (mark ++ (readString quote (quote :: rest)).1).getLast? = some quote := by
      rw [List.getLast?_append, hclosed hr, Option.some_or]
    refine .token s.brackets (by rw [e, List.append_assoc, htext]) ?_ ?_ fun t ht => ?_
    · intro hnil
      rw [hnil] at hlast
      cases hlast
    · rw [hlast]
      simpa using hquote
    · simp [isInner, ht]
  · exact .stop ..

theorem moves_name (e : s.here.rest = taken ++ rest) (ht : taken ≠ [])
    (hend : taken.getLast? ≠ some '\n') : Moves s (scanName.name s taken rest) := by
  unfold scanName.name
  split
  · exact .stop ..
  · refine .token s.brackets e ht hend fun t hkind => ?_
    split at hkind
    all_goals simp [isInner, hkind]

theorem moves_scanName (e : s.here.rest = c :: rest) (hc : mayContinue c = true) :
    Moves s (s.scanName s.here.rest) := by
  have hsplit := (List.takeWhile_append_dropWhile (p := mayContinue) (l := s.here.rest)).symm
  have htaken : s.here.rest.takeWhile mayContinue ≠ [] := by
    rw [e, List.takeWhile_cons_of_pos hc]
    exact List.cons_ne_nil _ _
  have hend : (s.here.rest.takeWhile mayContinue).getLast? ≠ some '\n' := by
    apply getLast?_ne_break
    rintro d hd rfl
    exact absurd (List.all_eq_true.mp List.all_takeWhile _ hd) (by decide)
  unfold scanName
  dsimp only
  split
  · next d more hmore =>
    split
    · next hquote =>
      rw [hmore] at hsplit
      refine moves_scanString _ hsplit ?_
      rintro rfl
      simp at hquote
    · exact moves_name (hmore ▸ hsplit) htaken hend
  · next hnil => exact moves_name (hnil ▸ hsplit) htaken hend

theorem moves_scanOperator (e : s.here.rest = c :: rest) (hc : c ≠ '\n') :
    Moves s (s.scanOperator c rest) := by
  have hlong : ∀ o ∈ longOperators, o ≠ [] ∧ o.getLast? ≠ some '\n' := by decide
  rw [scanOperator_eq]
  cases h : readOperator s.brackets s.here.line c rest with
  | error fault => exact .stop ..
  | ok out =>
    obtain ⟨taken, brackets⟩ := out
    have hpre := prefix_of_readOperator h
    obtain ⟨hne, hend⟩ : taken ≠ [] ∧ taken.getLast? ≠ some '\n' := by
      obtain ⟨hmem, -⟩ | ⟨rfl, -⟩ := cases_of_readOperator h
      · exact hlong taken hmem
      · exact ⟨List.cons_ne_nil _ _, by simpa using hc⟩
    rw [← e] at hpre ⊢
    exact .token brackets (List.prefix_iff_eq_append.mp hpre).symm hne hend fun t ht => by
      simp [isInner, ht]

theorem moves_number (e : s.here.rest = c :: rest) (hc : c.isDigit = true ∨ c = '.') :
    Moves s (scanWithin.number s) := by
  cases h : readNumber (numberText s.here.rest) with
  | error fault =>
    rw [number_of_error h]
    exact .stop ..
  | ok taken =>
    rw [number_of_ok h]
    rw [e, numberText_cons hc] at h
    obtain ⟨used, left, htext, rfl, hnumeral⟩ := exists_of_readNumber hc h
    have htaken : c :: used <+: numberText s.here.rest := by
      rw [e, numberText_cons hc, htext]
      exact ⟨left, rfl⟩
    have hpre : c :: used <+: s.here.rest := htaken.trans ( List.takeWhile_prefix _)
    have hend : (c :: used).getLast? ≠ some '\n' := by
      apply getLast?_ne_break
      rintro d hd rfl
      exact absurd (hnumeral _ hd) (by decide)
    exact .token s.brackets (List.prefix_iff_eq_append.mp hpre).symm (List.cons_ne_nil _ _) hend
      fun t ht => by simp [isInner, ht]

theorem moves_scanWithin (s : Scanner) : Moves s s.scanWithin := by
  unfold scanWithin
  split
  · split
    · exact .stop ..
    · exact .finish
  · next c rest e =>
    split
    · next hc =>
      refine .skip (eq_takeWhile_append _ _) ?_
      rw [e, List.takeWhile_cons, if_pos hc]
      exact List.cons_ne_nil _ _
    split
    · next hc =>
      subst hc
      refine .skip (eq_takeWhile_append _ _) ?_
      rw [e, List.takeWhile_cons_of_pos (by decide)]
      exact List.cons_ne_nil _ _
    split
    · next hc =>
      subst hc
      have hend := Moves.lineEnd e
      unfold markBreak at hend
      split
      · rwa [if_pos ‹_›] at hend
      · rwa [if_neg ‹_›] at hend
    next hbreak =>
    split
    · split
      · split
        · exact .stop ..
        · exact .stop ..
      · next rest _ =>
        have esplit : s.here.rest = [c, '\n'] ++ rest := e
        exact .skip esplit (List.cons_ne_nil _ _)
      · exact .stop ..
    split
    · next hc => exact moves_number e (.inl hc)
    split
    · next hc =>
      simp only [Bool.and_eq_true, decide_eq_true_eq] at hc
      exact moves_number e (.inr hc.1)
    split
    · next hquote =>
      refine moves_scanString [] e ?_
      rintro rfl
      simp at hquote
    split
    · next hc => exact moves_scanName e hc
    · exact moves_scanOperator e hbreak

/-! ## Steps at the start of a line -/

/-- The scanner with the tokens for a change of the indentation. -/
def indented (s : Scanner) (levels : List (Nat × Nat)) (entered : Bool) (left : Nat) : Scanner :=
  if entered then { s with levels := levels }.pushMark .indent
  else { s with levels := levels }.pushMarks .dedent left

/-- The start of the tokens of a line, behind its indentation. -/
def enter (s : Scanner) (m : Margin) : Next :=
  if !s.brackets.isEmpty then .within s
  else match indentStep s.levels m with
    | .error fault => .done (s.stopAt fault s.here.line false)
    | .ok (levels, entered, left) => .within (s.indented levels entered left)

/-- What a step at the start of a line can do, by the indentation that is read. A fault in it may
put the scanner on another line before it stops. -/
inductive Starts (s : Scanner) : Next → Prop where
  | stop {why : Fault} {line : Nat}
    (hread : readMargin ⟨0, 0, 0⟩ s.here.line s.here.col s.here.rest = .error (why, line))
    {place : Nat} (hplace : place = s.here.line ∨ place = line) (fault : Fault) (told : Nat) :
    Starts s (.done ({ s with here := { s.here with line := place } }.stopAt fault told false))
  | blank {m : Margin} {c : Cursor}
    (hread : readMargin ⟨0, 0, 0⟩ s.here.line s.here.col s.here.rest = .ok (m, c))
    {taken rest : Text} (e : c.rest = taken ++ rest) (ht : taken ≠ []) :
    Starts s (.line ({ s with here := c }.skip taken rest))
  | comment {m : Margin} {c : Cursor}
    (hread : readMargin ⟨0, 0, 0⟩ s.here.line s.here.col s.here.rest = .ok (m, c)) {taken : Text}
    (e : c.rest = taken) : Starts s (.within ({ s with here := c }.skip taken []))
  | enter {m : Margin} {c : Cursor}
    (hread : readMargin ⟨0, 0, 0⟩ s.here.line s.here.col s.here.rest = .ok (m, c)) :
    Starts s ({ s with here := c }.enter m)

theorem starts_scanLine (s : Scanner) : Starts s s.scanLine := by
  unfold scanLine
  split
  · next why line hread =>
    split
    · exact .stop hread (.inl rfl) ..
    · exact .stop hread (.inr rfl) ..
  · next m c hread =>
    extract_lets s' blank line
    have e : c.rest = line ++ c.rest.drop line.length := eq_takeWhile_append _ _
    split
    · split
      · next n rest hrest =>
        rw [hrest, ← List.singleton_append, ← List.append_assoc] at e
        exact .blank hread e (List.append_ne_nil_of_right_ne_nil _ (List.cons_ne_nil _ _))
      · next hrest =>
        rw [hrest, List.append_nil] at e
        exact .comment hread e
    · exact .enter hread

theorem suffix_readMargin {m m' : Margin} {line col : Nat} {text : Text} {c : Cursor}
    (h : readMargin m line col text = .ok (m', c)) : c.rest <:+ text := by
  fun_induction readMargin m line col text with
  | case1 m line col rest ih => exact (ih h).trans (List.suffix_cons ..)
  | case2 m line col rest ih => exact (ih h).trans (List.suffix_cons ..)
  | case3 m line col rest ih => exact (ih h).trans (List.suffix_cons ..)
  | case4 m line col => cases h
  | case5 m line col rest hrest ih => exact (ih h).trans (List.suffix_append ['\\', '\n'] rest)
  | case6 m line col tail _ _ => cases h
  | case7 m line col rest =>
    cases h
    exact List.suffix_rfl

theorem exists_pushMarks (kind : Kind) (n : Nat) (s : Scanner)
    (hkind : ∀ t : Token, t.kind = kind → t.isInner = true) :
    ∃ new, (s.pushMarks kind n).found = new ++ s.found ∧ (∀ u ∈ new, u.isInner = true)
      ∧ (s.pushMarks kind n).here = s.here := by
  induction n generalizing s with
  | zero => exact ⟨[], rfl, List.forall_mem_nil _, rfl⟩
  | succ n ih =>
    obtain ⟨new, hfound, hnew, hhere⟩ := ih (s.pushMark kind)
    refine ⟨new ++ [_], by rw [List.append_assoc]; exact hfound, ?_, hhere⟩
    exact List.forall_mem_append.mpr ⟨hnew, List.forall_mem_singleton.mpr (hkind _ rfl)⟩

/-- A change of the indentation adds tokens and nothing else. -/
theorem exists_indented (s : Scanner) (levels : List (Nat × Nat)) (entered : Bool) (left : Nat) :
    ∃ new, (s.indented levels entered left).found = new ++ s.found
      ∧ (∀ u ∈ new, u.isInner = true) ∧ (s.indented levels entered left).here = s.here := by
  unfold indented
  split
  · exact ⟨[_], rfl, List.forall_mem_singleton.mpr rfl, rfl⟩
  · exact exists_pushMarks .dedent left { s with levels := levels } fun t ht => by
      simp [isInner, ht]

/-! ## What every step does -/

/-- What a step can lead to. It goes on with less of the text, and within a line with less than `n`
characters. -/
inductive Step (s : Scanner) (n : Nat) : Next → Prop where
  | stop (here : Cursor) (fault : Fault) (line : Nat) (eager : Bool) :
    Step s n (.done ({ s with here := here }.stopAt fault line eager))
  | finish : Step s n (.done (s.pushMark .finish).found.reverse)
  | line {t : Scanner} (new : List Token) (hrest : t.here.rest.length < s.here.rest.length)
    (hfound : t.found = new ++ s.found) (hnew : ∀ u ∈ new, u.isInner = true) : Step s n (.line t)
  | within {t : Scanner} (new : List Token) (hrest : t.here.rest.length < n)
    (hfound : t.found = new ++ s.found) (hnew : ∀ u ∈ new, u.isInner = true) : Step s n (.within t)

variable {next : Next}

theorem Moves.step (h : Moves s next) : Step s s.here.rest.length next := by
  cases h with
  | stop => exact .stop s.here ..
  | finish => exact .finish
  | skip e ht => exact .within [] (length_past_lt e ht) rfl (List.forall_mem_nil _)
  | token _ e ht _ hkind =>
    exact .within [_] (length_past_lt e ht) rfl (List.forall_mem_singleton.mpr (hkind _ rfl))
  | lineEnd e =>
    have hless := length_past_lt (e.trans List.singleton_append.symm) (List.cons_ne_nil _ _)
    unfold markBreak
    split
    · exact .line [_] hless rfl (List.forall_mem_singleton.mpr rfl)
    · exact .line [] hless rfl (List.forall_mem_nil _)

theorem Starts.step (h : Starts s next) : Step s (s.here.rest.length + 1) next := by
  cases h with
  | stop => exact .stop { s.here with line := _ } ..
  | blank hread e ht =>
    have hle := (suffix_readMargin hread).length_le
    exact .line [] (Nat.lt_of_lt_of_le (length_past_lt e ht) hle) rfl (List.forall_mem_nil _)
  | comment hread e =>
    refine .within [] ?_ rfl (List.forall_mem_nil _)
    rw [skip, past_rest]
    exact Nat.succ_pos _
  | @enter m c hread =>
    have hle := (suffix_readMargin hread).length_le
    unfold Scanner.enter
    split
    · exact .within [] (Nat.lt_succ_of_le hle) rfl (List.forall_mem_nil _)
    split
    · exact .stop c ..
    · next levels entered left _ =>
      obtain ⟨new, hfound, hnew, hhere⟩ := exists_indented { s with here := c } levels entered left
      refine .within new ?_ hfound hnew
      rw [hhere]
      exact Nat.lt_succ_of_le hle

/-! ## Runs -/

/-- The tokens that scanning ends with. -/
inductive Leads : Next → List Token → Prop where
  | done (tokens : List Token) : Leads (.done tokens) tokens
  | line {s : Scanner} {tokens : List Token} (h : Leads s.scanLine tokens) : Leads (.line s) tokens
  | within {s : Scanner} {tokens : List Token} (h : Leads s.scanWithin tokens) :
    Leads (.within s) tokens

theorem Leads.unique {tokens tokens' : List Token} (h : Leads next tokens)
    (h' : Leads next tokens') : tokens = tokens' := by
  induction h with
  | done => cases h'; rfl
  | line _ ih => cases h' with | line h' => exact ih h'
  | within _ ih => cases h' with | within h' => exact ih h'

/-- A number that each step makes smaller. -/
def Next.left : Next → Nat
  | .line s => 2 * s.here.rest.length + 2
  | .within s => 2 * s.here.rest.length + 1
  | .done _ => 0

theorem Step.left_lt {n : Nat} (h : Step s n next) (hn : n ≤ s.here.rest.length + 1) :
    next.left ≤ 2 * s.here.rest.length + 1 ∧ (n ≤ s.here.rest.length →
      next.left ≤ 2 * s.here.rest.length) := by
  cases h with
  | stop => exact ⟨Nat.zero_le _, fun _ => Nat.zero_le _⟩
  | finish => exact ⟨Nat.zero_le _, fun _ => Nat.zero_le _⟩
  | line _ hrest => simp only [Next.left]; omega
  | within _ hrest => simp only [Next.left]; omega

/-- With as many steps as that, the bound on the steps is not reached. -/
theorem leads_run (n : Nat) (h : next.left ≤ n) : Leads next (run n next) := by
  induction n generalizing next with
  | zero =>
    cases next with
    | line s => exact absurd h (by simp only [Next.left]; omega)
    | within s => exact absurd h (by simp only [Next.left]; omega)
    | done tokens => exact .done tokens
  | succ n ih =>
    cases next with
    | line s =>
      have hstep := (starts_scanLine s).step.left_lt (Nat.le_refl _)
      simp only [Next.left] at h
      exact .line (ih (by omega))
    | within s =>
      have hstep := (moves_scanWithin s).step.left_lt (Nat.le_succ _)
      simp only [Next.left] at h
      exact .within (ih (by omega))
    | done tokens => exact .done tokens

/-- The tokens found so far. -/
def Next.tokens : Next → List Token
  | .line s => s.found
  | .within s => s.found
  | .done tokens => tokens

theorem Step.subset {n : Nat} (h : Step s n next) : s.found ⊆ next.tokens := by
  cases h with
  | stop => exact fun t ht => List.mem_reverse.mpr (List.mem_cons_of_mem _ ht)
  | finish => exact fun t ht => List.mem_reverse.mpr (List.mem_cons_of_mem _ ht)
  | line new _ hfound =>
    simp only [Next.tokens, hfound]
    exact List.subset_append_right ..
  | within new _ hfound =>
    simp only [Next.tokens, hfound]
    exact List.subset_append_right ..

/-- A token that was found stays. -/
theorem Leads.subset {tokens : List Token} (h : Leads next tokens) :
    next.tokens ⊆ tokens := by
  induction h with
  | done => exact List.Subset.refl _
  | line _ ih => exact List.Subset.trans (starts_scanLine _).step.subset ih
  | within _ ih => exact List.Subset.trans (moves_scanWithin _).step.subset ih

/-- Only the last token ends the tokens. -/
def Next.Orderly : Next → Prop
  | .line s => ∀ t ∈ s.found, t.isInner = true
  | .within s => ∀ t ∈ s.found, t.isInner = true
  | .done tokens => (∃ t ∈ tokens, t.isFinish = true) → ∀ t ∈ tokens, ∀ why, t.kind ≠ .stop why

theorem Step.orderly {n : Nat} (h : Step s n next)
    (hs : ∀ t ∈ s.found, t.isInner = true) : next.Orderly := by
  have hgrown (new : List Token) (hnew : ∀ t ∈ new, t.isInner = true) :
      ∀ t ∈ new ++ s.found, t.isInner = true := List.forall_mem_append.mpr ⟨hnew, hs⟩
  cases h with
  | stop here fault line eager =>
    rintro ⟨t, ht, hfinish⟩
    obtain rfl | ht := List.mem_cons.mp (List.mem_reverse.mp ht)
    · cases hfinish
    · exact absurd hfinish (Bool.eq_false_iff.mp (isFinish_of_isInner (hs t ht)))
  | finish =>
    intro _ t ht
    obtain rfl | ht := List.mem_cons.mp (List.mem_reverse.mp ht)
    · exact fun why hkind => nomatch hkind
    · exact kind_of_isInner (hs t ht)
  | line new _ hfound hnew =>
    simp only [Next.Orderly, hfound]
    exact hgrown new hnew
  | within new _ hfound hnew =>
    simp only [Next.Orderly, hfound]
    exact hgrown new hnew

theorem Leads.orderly {tokens : List Token} (h : Leads next tokens)
    (ho : next.Orderly) : (Next.done tokens).Orderly := by
  induction h with
  | done => exact ho
  | line _ ih => exact ih ((starts_scanLine _).step.orderly ho)
  | within _ ih => exact ih ((moves_scanWithin _).step.orderly ho)

end Scanner

/-! ## Whole texts -/

/-- A text with line feeds only that ends with one. -/
def closedText (source : Text) : Text :=
  if (unifyLines source).getLast? = some '\n' then unifyLines source
  else unifyLines source ++ ['\n']

/-- The scanner at the start of a text. -/
def Scanner.start (text : Text) : Scanner :=
  { here := { rest := text, line := 1, col := 0 }, brackets := [], levels := [], found := [] }

theorem leads_scanAt (line col : Nat) (source : Text) :
    Scanner.Leads
      (.line ⟨{ rest := closedText source, line := line, col := col }, [], [], []⟩)
      (scanAt line col source) :=
  Scanner.leads_run _ (by simp only [Scanner.Next.left]; exact Nat.add_le_add_left (by decide) _)

theorem leads_scan (source : Text) :
    Scanner.Leads (.line (Scanner.start (closedText source))) (scan source) :=
  leads_scanAt 1 0 source

end Token

end CodeReview.Source
