import CodeReview.Proofs.Grammar.Basic
import CodeReview.Proofs.Scanning
import CodeReview.Source.Grammar.Formatted

/-!
# Places in strings

The expression of a replacement field is read from its own tokens, which are scanned from the line
on which its opening brace stands. What is left to read of a literal is always the last part of its
body, so that brace is where the text says it is, and the lines of the field are lines of the
literal.
-/

namespace CodeReview.Source.Grammar

open Placed
open CodeReview.Source.Parser

/-! ## Parts of a literal -/

/-- The expression of a field and what follows it are the text that was read. -/
theorem fieldExpression_eq {s : FieldState} {acc text expression after : Text}
    (e : fieldExpression s acc text = .ok (expression, after)) :
    expression ++ after = acc.reverse ++ text := by
  fun_induction fieldExpression s acc text
  -- the ends of the expression
  case case3 | case16 =>
    cases e
    rfl
  -- faults
  case case1 | case2 | case5 | case11 | case13 | case17 | case19 => cases e
  -- one more character
  all_goals
    next ih =>
    rw [ih _ e, List.reverse_cons, List.append_assoc]
    rfl

theorem suffix_fieldBrace {inFormat doubled : Bool} {c : Char} {acc text literal rest : Text}
    (e : fieldBrace inFormat acc c text = .ok (literal, doubled, rest)) : rest <:+ c :: text := by
  unfold fieldBrace at e
  split at e
  · cases e
    exact List.suffix_rfl
  split at e
  · cases e
    exact (List.drop_suffix 1 text).trans (List.suffix_cons c text)
  split at e
  · cases e
  · cases e
    exact List.suffix_rfl

theorem suffix_fieldText {raw inFormat doubled : Bool} {n : Nat} {acc text literal rest : Text}
    (e : fieldText raw inFormat n acc text = .ok (literal, doubled, rest)) : rest <:+ text := by
  fun_induction fieldText raw inFormat n acc text with
  | case1 =>
    cases e
    exact List.suffix_rfl
  | case2 =>
    cases e
    exact List.suffix_rfl
  | case3 n acc c _ ih => exact (ih e).trans (List.suffix_cons ..)
  | case4 n acc c _ more _ _ ih =>
    exact (ih e).trans ((List.drop_suffix ..).trans (List.suffix_append [c, 'N', '\x7b'] more))
  | case5 n acc c _ d more _ ih => exact (ih e).trans (List.suffix_append [c, 'N', d] more)
  | case6 n acc c _ d more => exact (suffix_fieldBrace e).trans (List.suffix_cons ..)
  | case7 n acc c _ d more _ _ _ ih => exact (ih e).trans (List.suffix_append [c, d] more)
  | case8 => exact suffix_fieldBrace e
  | case9 n acc c rest _ _ ih => exact (ih e).trans (List.suffix_cons ..)

/-- The body of a literal stands between its opening and its closing quotes. -/
theorem exists_quoted (text : Text) :
    ∃ before after, text = before ++ (Literal.Quoted.of text).body ++ after ∧
      after.length = text.length - (Literal.Quoted.of text).opening
        - (Literal.Quoted.of text).body.length := by
  unfold Literal.Quoted.of
  extract_lets mark rest size has
  refine ⟨mark ++ rest.take size, (rest.drop size).drop (rest.length - 2 * size), ?_, ?_⟩
  · rw [List.append_assoc, List.take_append_drop, List.append_assoc, List.take_append_drop]
    exact Token.Scanner.eq_takeWhile_append Char.isAlpha text
  · have hmark : mark.length + rest.length = text.length := by
      rw [← List.length_append]
      exact congrArg List.length (Token.Scanner.eq_takeWhile_append Char.isAlpha text).symm
    simp only [List.length_drop, List.length_take]
    omega

/-! ## Replacement fields -/

/-- A literal within the lines, and a last part of its body. -/
structure Template.Holds (N : Nat) (t : Template) (rest : Text) : Prop where
  token : Within N t.token
  span : Within N t.span
  part : ∃ before after, t.token.text = before ++ rest ++ after ∧ after.length = t.closing

variable {g : Grammar} {N : Nat} {t : Template}

theorem Template.Holds.suffix {rest text : Text} (h : t.Holds N text) (hs : rest <:+ text) :
    t.Holds N rest := by
  obtain ⟨skipped, rfl⟩ := hs
  obtain ⟨before, after, htext, hafter⟩ := h.part
  refine ⟨h.token, h.span, before ++ skipped, after, ?_, hafter⟩
  rw [htext, ← List.append_assoc before]

variable [hg : ∀ k, Keeps N (g k)]

theorem keeps_parseField {expression after : Text}
    (h : t.Holds N ('\x7b' :: (expression ++ after))) :
    Keeps N (parseField g t expression after) := by
  obtain ⟨before, quotes, htext, hquotes⟩ := h.part
  refine .ite inferInstance ?_
  extract_lets left before' lines lastLine blank broken indent col tokens
  have hlength := congrArg List.length htext
  simp only [List.length_append, List.length_cons] at hlength
  -- What stands before the field is found again by counting from the end of the literal.
  have hbefore : before' = before := by
    have hleft : t.token.text.length - left = before.length := by omega
    simp only [before', hleft]
    rw [htext, List.append_assoc, List.take_left]
  have hplain : '\x0d' ∉ '(' :: expression ++ [')'] := by
    have hall := h.token.plain
    rw [htext] at hall
    simp only [List.mem_append, List.mem_cons, List.not_mem_nil] at hall ⊢
    simp only [not_or] at hall ⊢
    exact ⟨⟨by decide, hall.1.2.2.1⟩, by decide, not_false⟩
  -- The brackets around the expression bring no line feed, so it ends where it does in the literal.
  have htokens : Within N tokens := by
    have hfirst := h.token.first
    have hlast := h.token.last
    have hlines : lines = breaks before := congrArg breaks hbefore
    rw [htext] at hlast
    apply Token.within_scanAt
    · omega
    · rw [Token.unifyLines_eq_self hplain, hlines]
      have hopen : breaks ['('] = 0 := by decide
      have hclose : breaks [')'] = 0 := by decide
      have hbrace : breaks ['\x7b'] = 0 := by decide
      rw [← List.singleton_append] at hlast ⊢
      simp only [breaks_append] at hlast ⊢
      omega
  split
  · next n hn => exact .pure (within_of_run htokens hn)
  · infer_instance

instance : Placed Pieces := ⟨fun N p => Within N p.values⟩

theorem within_flush {p : Pieces} {span : Span} {marked : Bool} (h : Within N p)
    (hs : Within N span) : Within N (p.flush span marked) := by
  unfold Pieces.flush
  split
  · exact h
  · exact ⟨Node.within hs trivial, h⟩

theorem yields_liftFault {α : Type} {x : Except Fault α} :
    Yields N (liftFault x) fun a => x = .ok a := by
  cases x with
  | ok a => exact .pure rfl
  | error f => exact .raise

theorem yields_readShown (expression after : Text) :
    Yields N (readShown expression after) fun r => r.2 <:+ after := by
  unfold readShown
  split
  · next more =>
    refine .ite (fun _ => .raise) fun _ => .pure ?_
    exact (List.drop_suffix ..).trans (List.suffix_cons ..)
  · exact .pure List.suffix_rfl

theorem yields_readConversion (after : Text) :
    Yields N (readConversion after) fun r => r.2 <:+ after := by
  unfold readConversion
  split
  · exact .raise
  · next c rest => exact .ite (fun _ => .pure (List.suffix_append ['!', c] rest)) fun _ => .raise
  · exact .pure List.suffix_rfl

/-- What reading a part of a literal gives, and a last part of its body that is left. -/
abbrev Template.Read {α : Type} [Placed α] (N : Nat) (t : Template) (r : α × Text) : Prop :=
  Within N r.1 ∧ t.Holds N r.2

theorem yields_readFormat {inner : Text → Parser (Pieces × Text)} {after : Text}
    (hinner : ∀ rest, t.Holds N rest → Yields N (inner rest) (t.Read N)) (h : t.Holds N after) :
    Yields N (readFormat t inner after) (t.Read N) := by
  unfold readFormat
  split
  · next more =>
    refine .ite (fun _ => .raise) fun _ => ?_
    refine .bind (hinner more (h.suffix (List.suffix_cons ..))) fun r hr => .pure ⟨?_, hr.2⟩
    exact Node.within h.span (within_flush hr.1 h.span).reverse
  · exact .pure ⟨trivial, h⟩

theorem yields_readField {inner : Text → Parser (Pieces × Text)} {body : Text}
    (hinner : ∀ rest, t.Holds N rest → Yields N (inner rest) (t.Read N))
    (h : t.Holds N ('\x7b' :: body)) :
    Yields N (readField g t inner body) fun r => t.Read N r.2 := by
  refine .bind yields_liftFault fun field hfield => .ite (fun _ => .raise) fun _ => ?_
  obtain ⟨expression, after⟩ := field
  have hbody : expression ++ after = body := fieldExpression_eq hfield
  rw [← hbody] at h
  refine .bind (keeps_parseField h).yields fun value hv => ?_
  refine .bind (yields_readShown expression after) fun shown hshown => ?_
  refine .bind (yields_readConversion shown.2) fun conversion hconversion => ?_
  have hafter : t.Holds N conversion.2 :=
    h.suffix ((hconversion.trans hshown).trans (List.suffix_append ('\x7b' :: expression) after))
  refine .bind (yields_readFormat hinner hafter) fun format hformat => ?_
  obtain ⟨format, after⟩ := format
  dsimp only
  split
  · refine .pure ⟨Node.within h.span ⟨hv, hformat.1.toList⟩, ?_⟩
    exact hformat.2.suffix (List.suffix_cons ..)
  · exact .raise

theorem yields_readPieces (n level : Nat) {pieces : Pieces} {rest : Text} (hp : Within N pieces)
    (h : t.Holds N rest) : Yields N (readPieces g t n level pieces rest) (t.Read N) := by
  induction n generalizing level pieces rest with
  | zero => exact .pure ⟨hp, h⟩
  | succ n ih =>
    refine .bind yields_liftFault fun found hfound => .bind yields_liftFault fun literal _ => ?_
    obtain ⟨text, doubled, rest'⟩ := found
    have hrest : t.Holds N rest' := h.suffix (suffix_fieldText hfound)
    refine .ite (fun _ => ih level hp hrest) fun _ => ?_
    dsimp only
    split
    · next body _ _ =>
      refine .ite (fun _ => .raise) fun _ => ?_
      have hinner (rest : Text) (h : t.Holds N rest) :
          Yields N (readPieces g t n (level + 1) { values := [], pending := [] } rest) (t.Read N) :=
        ih (level + 1) trivial h
      refine .bind (yields_readField hinner hrest) fun r hr => ?_
      exact ih level ⟨hr.1, within_flush hp h.span⟩ hr.2
    · exact .pure ⟨hp, hrest⟩

/-! ## Whole strings -/

theorem keeps_addLiteral {span : Span} {marked : Bool} {pieces : Pieces}
    {literal : Token × Literal.Quoted} (hs : Within N span) (hp : Within N pieces)
    (ht : Within N literal.1) (hq : literal.2 = Literal.Quoted.of literal.1.text) :
    Keeps N (addLiteral g span marked pieces literal) := by
  obtain ⟨t, q⟩ := literal
  obtain rfl : q = Literal.Quoted.of t.text := hq
  refine ⟨.ite (fun _ => ?_) fun _ => ?_⟩
  · refine .bind (yields_readPieces _ 0 hp ⟨ht, hs, exists_quoted t.text⟩) fun r hr => ?_
    exact .ite (fun _ => .pure hr.1) fun _ => .raise
  · exact .bind yields_liftFault fun text _ => .pure hp

instance keeps_strings : Keeps N (strings g) := by
  refine .bind fun first hfirst => .bind fun more hmore => ?_
  refine .andThen (keeps_spanFrom hfirst) fun span hs => ?_
  extract_lets literals marked
  have hliterals : ∀ l ∈ literals, Within N l.1 ∧ l.2 = Literal.Quoted.of l.1.text := by
    intro l hl
    obtain ⟨t, ht, rfl⟩ := List.mem_map.mp hl
    have hall : Within N (first :: more) := ⟨hfirst, hmore⟩
    exact ⟨hall.of_mem ht, rfl⟩
  refine .ite (.andThen (.mapM fun l _ => ?_) fun parts _ => ?_) ?_
  · refine .ite inferInstance (.ite inferInstance ⟨yields_liftFault.mono fun bytes _ => ?_⟩)
    exact within_iff_forall.mpr fun _ _ => trivial
  · exact .pure (Node.within hs trivial)
  · refine .andThen (.foldlM ?_ fun l hl pieces hp => ?_) fun pieces hp => .ite ?_ ?_
    · trivial
    · exact keeps_addLiteral hs hp (hliterals l hl).1 (hliterals l hl).2
    · exact .pure (Node.within hs (within_flush hp hs).reverse)
    · exact .pure (Node.within hs trivial)

end CodeReview.Source.Grammar
