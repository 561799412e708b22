import CodeReview.Pattern.Reader
import CodeReview.Proofs.Masking
import CodeReview.Proofs.Substitution

/-!
# Hiding texts quote by quote

A line is cut at its quotes, and what is hidden is decided by going over the quotes once, from the
left: a quote that comes again after at least six characters hides them, and both quotes are done
with; any other quote is passed over alone. Hiding changes no quote and makes no long text short, so
a second time nothing changes.

The same comes from a pattern in which the second quote is written as the first one once more, if
all its matches are replaced. The pattern tries several lengths for the middle of the text, of which
only one can end at a quote.
-/

namespace CodeReview.Analysis

/-! ## Lines cut at their quotes -/

/-- A line as what stands before its first quote, and its quotes, each with what follows it. -/
structure CutLine where
  lead : Text
  quoted : List (Char × Text)
  lead_plain : ∀ c ∈ lead, isQuote c = false
  quotes : ∀ s ∈ quoted, isQuote s.1 = true
  plain : ∀ s ∈ quoted, ∀ c ∈ s.2, isQuote c = false

namespace CutLine

def textOf (quoted : List (Char × Text)) : Text :=
  quoted.flatMap fun s => s.1 :: s.2

def toText (l : CutLine) : Text :=
  l.lead ++ textOf l.quoted

theorem textOf_cons (q : Char) (t : Text) (rest : List (Char × Text)) :
    textOf ((q, t) :: rest) = q :: (t ++ textOf rest) := rfl

/-- Every line can be cut. -/
theorem exists_toText (line : Text) : ∃ l : CutLine, l.toText = line := by
  induction line with
  | nil => exact ⟨⟨[], [], by simp, by simp, by simp⟩, rfl⟩
  | cons c cs ih =>
    obtain ⟨l, rfl⟩ := ih
    by_cases hc : isQuote c = true
    · -- What stood first follows the new quote.
      refine ⟨⟨[], (c, l.lead) :: l.quoted, by simp, ?_, ?_⟩, rfl⟩
      · exact List.forall_mem_cons.mpr ⟨hc, l.quotes⟩
      · exact List.forall_mem_cons.mpr ⟨l.lead_plain, l.plain⟩
    · refine ⟨⟨c :: l.lead, l.quoted, ?_, l.quotes, l.plain⟩, rfl⟩
      exact List.forall_mem_cons.mpr ⟨Bool.eq_false_iff.mpr hc, l.lead_plain⟩

end CutLine

open CutLine

/-! ## Going over the quotes -/

/-- What is shown in place of a text. -/
def veil (t : Text) : Text :=
  t.take 4 ++ "****" ++ t.drop (t.length - 2)

/-- Goes over the quotes of a line from the left. -/
def hide : List (Char × Text) → List (Char × Text)
  | [] => []
  | [last] => [last]
  | (q, t) :: (r, u) :: rest =>
    if q = r ∧ 6 ≤ t.length then (q, veil t) :: (r, u) :: hide rest
    else (q, t) :: hide ((r, u) :: rest)

variable {t : Text}

theorem length_veil (h : 6 ≤ t.length) : (veil t).length = 10 := by
  unfold veil
  rw [List.length_append, List.length_append, List.length_take, List.length_drop]
  change min 4 t.length + 4 + _ = 10
  omega

theorem veil_veil (h : 6 ≤ t.length) : veil (veil t) = veil t := by
  have hfirst : (t.take 4).length = 4 := by
    rw [List.length_take]
    omega
  have htake : (veil t).take 4 = t.take 4 := by
    rw [veil, List.append_assoc]
    exact List.take_left' hfirst
  have hdrop : (veil t).drop ((veil t).length - 2) = t.drop (t.length - 2) := by
    rw [length_veil h, veil]
    apply List.drop_left'
    rw [List.length_append, hfirst]
    rfl
  rw [veil, htake, hdrop]
  rfl

theorem isQuote_of_mem_veil (h : ∀ c ∈ t, isQuote c = false) :
    ∀ c ∈ veil t, isQuote c = false := by
  intro c hc
  rw [veil, List.mem_append, List.mem_append] at hc
  rcases hc with (hc | hc) | hc
  · exact h c (List.mem_of_mem_take hc)
  · have hstars : ("****".toList.all fun c => isQuote c == false) = true := by decide +kernel
    exact beq_iff_eq.mp (List.all_eq_true.mp hstars c hc)
  · exact h c (List.mem_of_mem_drop hc)

/-- The first quote stays, whatever becomes of the text behind it. -/
theorem exists_hide_cons (r : Char) (u : Text) (rest : List (Char × Text)) :
    ∃ v others, hide ((r, u) :: rest) = (r, v) :: others := by
  cases rest with
  | nil => exact ⟨u, [], rfl⟩
  | cons s rest =>
    rw [hide]
    split
    · exact ⟨_, _, rfl⟩
    · exact ⟨_, _, rfl⟩

theorem hide_hide (quoted : List (Char × Text)) : hide (hide quoted) = hide quoted := by
  fun_induction hide quoted with
  | case1 => rfl
  | case2 last => rfl
  | case3 q t r u rest h ih =>
    have hlong := length_veil h.2
    rw [hide, if_pos ⟨h.1, by omega⟩, veil_veil h.2, ih]
  | case4 q t r u rest h ih =>
    -- The decision looks at the next quote only, which stays.
    obtain ⟨v, others, hnext⟩ := exists_hide_cons r u rest
    rw [hnext] at ih ⊢
    rw [hide, if_neg h, ih]

/-- Each quote stays, with its text or a veil in its place. -/
theorem mem_hide {quoted : List (Char × Text)} {s : Char × Text} (h : s ∈ hide quoted) :
    s ∈ quoted ∨ ∃ t, (s.1, t) ∈ quoted ∧ s.2 = veil t := by
  fun_induction hide quoted with
  | case1 => exact absurd h List.not_mem_nil
  | case2 last => exact .inl h
  | case3 q t r u rest hclose ih =>
    rcases List.mem_cons.mp h with rfl | h
    · exact .inr ⟨t, List.mem_cons_self, rfl⟩
    rcases List.mem_cons.mp h with rfl | h
    · exact .inl (List.mem_cons_of_mem _ List.mem_cons_self)
    rcases ih h with hin | ⟨v, hin, hveil⟩
    · exact .inl (List.mem_cons_of_mem _ (List.mem_cons_of_mem _ hin))
    · exact .inr ⟨v, List.mem_cons_of_mem _ (List.mem_cons_of_mem _ hin), hveil⟩
  | case4 q t r u rest hclose ih =>
    rcases List.mem_cons.mp h with rfl | h
    · exact .inl List.mem_cons_self
    rcases ih h with hin | ⟨v, hin, hveil⟩
    · exact .inl (List.mem_cons_of_mem _ hin)
    · exact .inr ⟨v, List.mem_cons_of_mem _ hin, hveil⟩

/-- A line after its quotes have been gone over. -/
def CutLine.hidden (l : CutLine) : CutLine where
  lead := l.lead
  quoted := hide l.quoted
  lead_plain := l.lead_plain
  quotes := by
    intro s hs
    rcases mem_hide hs with hin | ⟨t, hin, -⟩
    · exact l.quotes s hin
    · exact l.quotes (s.1, t) hin
  plain := by
    intro s hs
    rcases mem_hide hs with hin | ⟨t, hin, hveil⟩
    · exact l.plain s hin
    · rw [hveil]
      exact isQuote_of_mem_veil (l.plain _ hin)

/-! ## The two ways to hide -/

/-- A quote that no other one follows hides nothing. -/
theorem maskSecrets_last {q : Char} (ht : ∀ c ∈ t, isQuote c = false) :
    maskSecrets (q :: t) = q :: t := by
  have hinside : t.takeWhile (fun c => !isQuote c) = t := by
    have h := takeWhile_unquoted (r := []) ht (by simp)
    rwa [List.append_nil] at h
  have hrest : maskSecrets t = t := by
    have h := maskSecrets_unquoted ht []
    rw [List.append_nil] at h
    rw [h]
    exact List.append_nil t
  have hopen : ¬((decide (6 ≤ t.length) && decide (none = some q)) = true) := by simp
  rw [maskSecrets, maskAux]
  simp only [hinside, List.drop_length, List.head?_nil]
  rw [if_neg hopen, ite_self]
  exact congrArg (q :: ·) hrest

theorem maskSecrets_textOf {quoted : List (Char × Text)}
    (hquotes : ∀ s ∈ quoted, isQuote s.1 = true)
    (hplain : ∀ s ∈ quoted, ∀ c ∈ s.2, isQuote c = false) :
    maskSecrets (textOf quoted) = textOf (hide quoted) := by
  fun_induction hide quoted with
  | case1 => rfl
  | case2 last =>
    obtain ⟨q, t⟩ := last
    have ht := hplain (q, t) List.mem_cons_self
    rw [textOf_cons, textOf, List.flatMap_nil, List.append_nil]
    exact maskSecrets_last ht
  | case3 q t r u rest h ih =>
    simp only [List.forall_mem_cons] at hquotes hplain
    obtain ⟨rfl, hlong⟩ := h
    have hhidden := maskSecrets_hidden hquotes.1 hplain.1 hlong (u ++ textOf rest)
    rw [maskSecrets_unquoted hplain.2.1, ih hquotes.2.2 hplain.2.2] at hhidden
    rw [textOf_cons, textOf_cons, hhidden, textOf_cons, textOf_cons, masked, veil]
    simp
  | case4 q t r u rest h ih =>
    simp only [List.forall_mem_cons] at hquotes hplain
    have hshown := maskSecrets_shown hquotes.1 hplain.1 hquotes.2.1 h (u ++ textOf rest)
    have hrest := ih (List.forall_mem_cons.mpr hquotes.2) (List.forall_mem_cons.mpr hplain.2)
    rw [textOf_cons] at hrest
    rw [textOf_cons, textOf_cons, hshown, hrest, textOf_cons]

theorem maskSecrets_toText (l : CutLine) : maskSecrets l.toText = l.hidden.toText := by
  rw [toText, maskSecrets_unquoted l.lead_plain, maskSecrets_textOf l.quotes l.plain]
  rfl

theorem maskSecrets_maskSecrets (line : Text) :
    maskSecrets (maskSecrets line) = maskSecrets line := by
  obtain ⟨l, rfl⟩ := exists_toText line
  rw [maskSecrets_toText, maskSecrets_toText, toText, toText]
  exact congrArg (fun quoted => l.lead ++ textOf quoted) (hide_hide l.quoted)

/-! ## A pattern for quoted texts -/

open Pattern

/-- A quote, four characters, any others, two characters and the quote once more. -/
def secretExpression : Text :=
  "([\"\\'])([^\"\\']\x7b4\x7d)[^\"\\']*([^\"\\']\x7b2\x7d)\\1"

/-- The quotes, or all other characters. -/
def quoteSet (negated : Bool) : CharSet where
  negated := negated
  members := [.range 34 34, .range 39 39]
  ignoreCase := false
  ascii := false

def secretPattern : Pattern :=
  .both (.group (some 1) (.one (quoteSet false)))
    (.both (.group (some 2) (.many (.one (quoteSet true)) 4 (some 4) .greedy))
      (.both (.many (.one (quoteSet true)) 0 none .greedy)
        (.both (.group (some 3) (.many (.one (quoteSet true)) 2 (some 2) .greedy))
          (.again 1 false false))))

theorem read_secretExpression : Pattern.read secretExpression = .ok secretPattern := by
  decide +kernel

/-- What is put in the place of a match: its groups, with stars for the middle. -/
def veiledMatch (c : Cursor) : Text :=
  let captured (g : Nat) : Text := (c.groups.lookup g).getD []
  captured 1 ++ captured 2 ++ "****" ++ captured 3 ++ captured 1

theorem decide_eq_range (c q : Char) :
    decide (c = q) = (decide (q.toNat ≤ c.toNat) && decide (c.toNat ≤ q.toNat)) := by
  rw [Bool.eq_iff_iff, Bool.and_eq_true, decide_eq_true_iff, decide_eq_true_iff, decide_eq_true_iff]
  constructor
  · rintro rfl
    exact ⟨Nat.le_refl _, Nat.le_refl _⟩
  · rintro ⟨hlow, hhigh⟩
    exact Char.toNat_inj.mp (Nat.le_antisymm hhigh hlow)

theorem quoteSet_has (negated : Bool) (c : Char) :
    (quoteSet negated).has c = (negated != isQuote c) := by
  have hquote : (quoteSet negated).members.any (Member.has (quoteSet negated) c) = isQuote c := by
    rw [isQuote, decide_eq_range c '"', decide_eq_range c '\'']
    simp [quoteSet, Member.has]
  rw [CharSet.has, hquote]
  rfl

/-- What stands before the next quote. -/
def unquotedStart (t : Text) : Text :=
  t.takeWhile fun c => !isQuote c

theorem room_unquoted (c : Cursor) :
    (quoteSet true).room c = (unquotedStart c.rest).length := by
  have hsame : (quoteSet true).has = fun c => !isQuote c := by
    funext c
    rw [quoteSet_has]
    cases isQuote c <;> rfl
  rw [CharSet.room, hsame, unquotedStart]

variable {a : Char} {c : Cursor}

theorem one_le_room_quote {cs : Text} (h : c.rest = a :: cs) :
    1 ≤ (quoteSet false).room c ↔ isQuote a = true := by
  have hhas : (quoteSet false).has a = isQuote a := by
    rw [quoteSet_has]
    cases isQuote a <;> rfl
  rw [CharSet.room, h]
  by_cases ha : isQuote a = true
  · simp [hhas, ha]
  · simp [hhas, ha]

/-- A text is what stands before its next quote, and then a quote if there is more. -/
theorem exists_unquotedStart (t : Text) : ∃ r, t = unquotedStart t ++ r
    ∧ (∀ c ∈ unquotedStart t, isQuote c = false) ∧ ∀ c, r.head? = some c → isQuote c = true := by
  induction t with
  | nil => exact ⟨[], rfl, by simp [unquotedStart], by simp⟩
  | cons c cs ih =>
    obtain ⟨r, hr, hplain, hquote⟩ := ih
    by_cases hc : isQuote c = true
    · have hnone : unquotedStart (c :: cs) = [] := by simp [unquotedStart, hc]
      rw [hnone]
      refine ⟨c :: cs, rfl, by simp, fun d hd => ?_⟩
      rwa [← Option.some.inj hd]
    · rw [Bool.not_eq_true] at hc
      have hsome : unquotedStart (c :: cs) = c :: unquotedStart cs := by simp [unquotedStart, hc]
      rw [hsome]
      exact ⟨r, congrArg (c :: ·) hr, List.forall_mem_cons.mpr ⟨hc, hplain⟩, hquote⟩

theorem unquotedStart_drop {n : Nat} (h : n ≤ (unquotedStart t).length) :
    unquotedStart (t.drop n) = (unquotedStart t).drop n := by
  obtain ⟨r, hr, hplain, hquote⟩ := exists_unquotedStart t
  have hdrop : t.drop n = (unquotedStart t).drop n ++ r := by
    conv_lhs => rw [hr]
    exact List.drop_append_of_le_length h
  rw [hdrop]
  exact takeWhile_unquoted (fun c hc => hplain c (List.mem_of_mem_drop hc)) hquote

theorem take_unquotedStart {n : Nat} (h : n ≤ (unquotedStart t).length) :
    t.take n = (unquotedStart t).take n := by
  obtain ⟨r, hr, -⟩ := exists_unquotedStart t
  conv_lhs => rw [hr]
  exact List.take_append_of_le_length h

/-- Before the next quote there is none. -/
theorem head?_drop_unquoted {n : Nat} (h : n < (unquotedStart t).length)
    (ha : (t.drop n).head? = some a) : isQuote a = false := by
  obtain ⟨r, hr, hplain, -⟩ := exists_unquotedStart t
  rw [hr, List.head?_drop, List.getElem?_append_left h] at ha
  exact hplain a (List.mem_of_getElem? ha)

/-- The last two characters and the quote, tried after a number of characters. -/
theorem run_end (h : c.groups.lookup 1 = some [a]) {j : Nat}
    (hj : j ≤ (unquotedStart c.rest).length) :
    run (.both (.group (some 3) (.many (.one (quoteSet true)) 2 (some 2) .greedy))
        (.again 1 false false)) (c.forward j) some
      = if j + 2 ≤ (unquotedStart c.rest).length ∧ (c.rest.drop (j + 2)).head? = some a then
          some ((c.forward (j + 3)).capture 3 ((c.rest.drop j).take 2))
        else none := by
  have hroom : (quoteSet true).room (c.forward j) = (unquotedStart c.rest).length - j := by
    rw [CharSet.room_forward (by rw [room_unquoted]; exact hj), room_unquoted]
  have hcaptured : ∀ t, (((c.forward j).forward 2).capture 3 t).groups.lookup 1 = some [a] := by
    intro t
    rw [Cursor.lookup_capture, if_neg (by decide)]
    exact h
  rw [run_both, run_group_exactly_one, hroom]
  by_cases hlong : j + 2 ≤ (unquotedStart c.rest).length
  · rw [if_pos (by omega), run_again_one _ _ (hcaptured _), Cursor.forward_capture,
      Cursor.forward_forward, Cursor.forward_forward, show j + 2 + 1 = j + 3 from rfl]
    split
    · rename_i hhead
      rw [if_pos ⟨hlong, hhead⟩]
      rfl
    · rename_i hhead
      rw [if_neg (fun hboth => hhead hboth.2)]
  · rw [if_neg (by omega), if_neg (fun hboth => hlong hboth.1)]

/-- The middle, the last two characters and the quote. Of all lengths of the middle only the one
that leads up to a quote can do. -/
theorem run_rest (ha : isQuote a = true) (h : c.groups.lookup 1 = some [a]) :
    run (.both (.many (.one (quoteSet true)) 0 none .greedy)
        (.both (.group (some 3) (.many (.one (quoteSet true)) 2 (some 2) .greedy))
          (.again 1 false false))) c some
      = if 2 ≤ (unquotedStart c.rest).length
            ∧ (c.rest.drop (unquotedStart c.rest).length).head? = some a then
          some ((c.forward ((unquotedStart c.rest).length + 1)).capture 3
            ((unquotedStart c.rest).drop ((unquotedStart c.rest).length - 2)))
        else none := by
  -- Any other length of the middle leads up to a character that is no quote.
  have hshort : ∀ j ≤ (unquotedStart c.rest).length, j + 2 ≠ (unquotedStart c.rest).length →
      run (.both (.group (some 3) (.many (.one (quoteSet true)) 2 (some 2) .greedy))
        (.again 1 false false)) (c.forward j) some = none := by
    intro j hj hne
    rw [run_end h hj, if_neg]
    rintro ⟨hlong, hhead⟩
    rw [head?_drop_unquoted (by omega) hhead] at ha
    exact absurd ha (by decide)
  rw [run_both, run_many_one, room_unquoted]
  by_cases hlong : 2 ≤ (unquotedStart c.rest).length
  · have hsum : (unquotedStart c.rest).length - 2 + 2 = (unquotedStart c.rest).length := by omega
    have hlast : (c.rest.drop ((unquotedStart c.rest).length - 2)).take 2
        = (unquotedStart c.rest).drop ((unquotedStart c.rest).length - 2) := by
      have hdrop := unquotedStart_drop (t := c.rest) (Nat.sub_le (unquotedStart c.rest).length 2)
      have htwo : (unquotedStart (c.rest.drop ((unquotedStart c.rest).length - 2))).length = 2 := by
        rw [hdrop, List.length_drop]
        omega
      rw [take_unquotedStart (by omega), List.take_of_length_le (by omega), hdrop]
    rw [findSome?_downFrom (i := (unquotedStart c.rest).length - 2) (by omega)
      fun j hj hne => hshort j hj (by omega), run_end h (by omega), hsum, hlast,
      show (unquotedStart c.rest).length - 2 + 3 = (unquotedStart c.rest).length + 1 by omega]
    simp only [Nat.le_refl, hlong, true_and]
  · rw [if_neg (fun hboth => hlong hboth.1), List.findSome?_eq_none_iff]
    intro j hj
    exact hshort j (mem_downFrom.mp hj) (by omega)

/-- The first quote and the four characters behind it. -/
theorem run_front {cs : Text} (hrest : c.rest = a :: cs) (q : Pattern) :
    run (.both (.group (some 1) (.one (quoteSet false)))
        (.both (.group (some 2) (.many (.one (quoteSet true)) 4 (some 4) .greedy)) q)) c some
      = if isQuote a = true ∧ 4 ≤ (unquotedStart cs).length then
          run q (((c.forward 5).capture 1 [a]).capture 2 ((unquotedStart cs).take 4)) some
        else none := by
  have hbehind : (c.forward 1).rest = cs := by rw [Cursor.forward_rest, hrest]; rfl
  have hfirst : c.rest.take 1 = [a] := by rw [hrest]; rfl
  rw [run_both, run_group_one, hfirst]
  by_cases ha : isQuote a = true
  · rw [if_pos ((one_le_room_quote hrest).mpr ha), run_both, run_group_exactly_one, room_unquoted,
      Cursor.capture_rest, hbehind]
    by_cases hfour : 4 ≤ (unquotedStart cs).length
    · rw [if_pos hfour, if_pos ⟨ha, hfour⟩, take_unquotedStart hfour, Cursor.forward_capture,
        Cursor.forward_forward]
    · rw [if_neg hfour, if_neg (fun h => hfour h.2)]
  · rw [if_neg (fun h => ha ((one_le_room_quote hrest).mp h)), if_neg (fun h => ha h.1)]

/-- At a quote the pattern matches up to the next one, if that is the same and there are at least
six characters in between. -/
theorem run_secretPattern {cs : Text} (hrest : c.rest = a :: cs) :
    run secretPattern c some
      = if isQuote a = true ∧ 6 ≤ (unquotedStart cs).length
            ∧ (cs.drop (unquotedStart cs).length).head? = some a then
          some ((((c.forward ((unquotedStart cs).length + 2)).capture 1 [a]).capture 2
            ((unquotedStart cs).take 4)).capture 3
              ((unquotedStart cs).drop ((unquotedStart cs).length - 2)))
        else none := by
  rw [secretPattern, run_front hrest]
  by_cases hfront : isQuote a = true ∧ 4 ≤ (unquotedStart cs).length
  · obtain ⟨ha, hfour⟩ := hfront
    have hlater : (c.forward 5).rest = cs.drop 4 := by rw [Cursor.forward_rest, hrest]; rfl
    have hwhole : 4 + ((unquotedStart cs).length - 4) = (unquotedStart cs).length := by omega
    have hmoved : 5 + ((unquotedStart cs).length - 4 + 1) = (unquotedStart cs).length + 2 := by
      omega
    rw [if_pos ⟨ha, hfour⟩, run_rest ha (by simp), Cursor.capture_rest, Cursor.capture_rest, hlater,
      unquotedStart_drop hfour, List.length_drop, List.drop_drop, hwhole, Cursor.forward_capture,
      Cursor.forward_capture, Cursor.forward_forward, hmoved, List.drop_drop]
    by_cases hsix : 6 ≤ (unquotedStart cs).length
    · have hlast : 4 + ((unquotedStart cs).length - 4 - 2) = (unquotedStart cs).length - 2 := by
        omega
      have htwo : 2 ≤ (unquotedStart cs).length - 4 := by omega
      rw [hlast]
      simp only [ha, hsix, htwo, true_and]
    · rw [if_neg (fun h => hsix (by omega)), if_neg (fun h => hsix h.2.1)]
  · rw [if_neg hfront, if_neg (fun h => hfront ⟨h.1, by omega⟩)]

/-- One step of hiding. -/
theorem maskAux_cons (a : Char) (cs : Text) :
    maskAux 0 (a :: cs)
      = if isQuote a = true ∧ 6 ≤ (unquotedStart cs).length
            ∧ (cs.drop (unquotedStart cs).length).head? = some a then
          masked a (unquotedStart cs) ++ maskAux ((unquotedStart cs).length + 1) cs
        else a :: maskAux 0 cs := by
  have hboth : (decide (6 ≤ (unquotedStart cs).length)
        && decide ((cs.drop (unquotedStart cs).length).head? = some a)) = true
      ↔ 6 ≤ (unquotedStart cs).length ∧ (cs.drop (unquotedStart cs).length).head? = some a := by
    rw [Bool.and_eq_true, decide_eq_true_iff, decide_eq_true_iff]
  rw [maskAux]
  by_cases ha : isQuote a = true
  · rw [if_pos ha]
    by_cases hclosed : 6 ≤ (unquotedStart cs).length
        ∧ (cs.drop (unquotedStart cs).length).head? = some a
    · exact (if_pos (hboth.mpr hclosed)).trans (if_pos ⟨ha, hclosed⟩).symm
    · exact (if_neg (mt hboth.mp hclosed)).trans (if_neg fun h => hclosed h.2).symm
  · rw [if_neg ha, if_neg fun h => ha h.1]

theorem veiledMatch_captured (c : Cursor) (a : Char) (t : Text) :
    veiledMatch (((c.capture 1 [a]).capture 2 (t.take 4)).capture 3 (t.drop (t.length - 2)))
      = masked a t := by
  simp [veiledMatch, masked]

/-- Hiding is replacing what the pattern matches. -/
theorem maskAux_eq_replaceAux (skip : Nat) (before : Text) (pos : Nat) (t : Text) :
    maskAux skip t = replaceAux secretPattern veiledMatch skip before pos t := by
  induction t generalizing skip before pos with
  | nil => rw [maskAux, replaceAux]
  | cons a cs ih =>
    cases skip with
    | succ skip => rw [maskAux, replaceAux, ih]
    | zero =>
      rw [maskAux_cons, replaceAux, run_secretPattern rfl]
      by_cases hclosed : isQuote a = true ∧ 6 ≤ (unquotedStart cs).length
          ∧ (cs.drop (unquotedStart cs).length).head? = some a
      · have hpassed : pos + ((unquotedStart cs).length + 2) - (pos + 1)
            = (unquotedStart cs).length + 1 := by omega
        rw [if_pos hclosed, if_pos hclosed]
        simp only [veiledMatch_captured, Cursor.capture_pos, Cursor.forward_pos, hpassed]
        rw [ih]
      · rw [if_neg hclosed, if_neg hclosed]
        simp only
        rw [ih]

/-- Hiding the quoted texts of a line is what a scan over its quotes does, and what replacing the
matches of a pattern does, and doing it twice is doing it once. -/
theorem maskSecrets_scans :
    (∀ line : Text, ∃ l : CutLine, l.toText = line)
      ∧ (∀ l : CutLine, maskSecrets l.toText = l.lead ++ textOf (hide l.quoted))
      ∧ (∀ line : Text, maskSecrets (maskSecrets line) = maskSecrets line)
      ∧ ∃ p, Pattern.read secretExpression = .ok p
        ∧ ∀ line : Text, maskSecrets line = p.replaceAll veiledMatch line := by
  refine ⟨exists_toText, maskSecrets_toText, maskSecrets_maskSecrets, secretPattern,
    read_secretExpression, fun line => ?_⟩
  exact maskAux_eq_replaceAux 0 [] 0 line

end CodeReview.Analysis
