import CodeReview.Proofs.Comments
import CodeReview.Text.Layout

/-!
# Tidy texts

Tidying replaces tabs and line ends and then cuts off what is blank. The two replacements of line
ends, one after the other, come to unifying them as the scanner does, so it makes no difference
which kind of line end a text has. What is cut off afterwards brings no tab and no line end back:
the result is a text to which none of the steps does anything.
-/

namespace CodeReview.Text

open Source.Token (unifyLines unifyLines_eq_self not_mem_unifyLines)

/-! ## Replacing -/

theorem splitAux_ne_nil (sep : Text) (skip : Nat) (acc t : Text) :
    splitAux sep skip acc t ≠ [] := by
  fun_induction splitAux sep skip acc t with
  | case1 => exact List.cons_ne_nil _ _
  | case2 _ _ _ _ ih => exact ih
  | case3 => exact List.cons_ne_nil _ _
  | case4 _ _ _ _ ih => exact ih

theorem splitAux_eq_modifyHead (sep : Text) (skip : Nat) (acc t : Text) :
    splitAux sep skip acc t = (splitAux sep skip [] t).modifyHead (acc.reverse ++ ·) := by
  induction t generalizing skip acc with
  | nil => simp [splitAux]
  | cons c t ih =>
    cases skip with
    | zero =>
      rw [splitAux, splitAux]
      split
      · simp
      · rw [ih 0 (c :: acc), ih 0 [c], List.modifyHead_modifyHead]
        congr 1
        funext l
        simp
    | succ skip => exact ih skip acc

theorem splitAux_eq_drop (sep : Text) (skip : Nat) (acc t : Text) :
    splitAux sep skip acc t = splitAux sep 0 acc (t.drop skip) := by
  induction t generalizing skip with
  | nil => cases skip <;> rfl
  | cons c t ih =>
    cases skip with
    | zero => rfl
    | succ skip => exact ih skip

/-- Where the text to replace does not start, a character is kept. -/
theorem replace_cons {old t : Text} {c : Char} (new : Text) (h : ¬ old <+: c :: t) :
    replace (c :: t) old new = c :: replace t old new := by
  have hprefix : ¬ old.isPrefixOf (c :: t) = true := mt List.isPrefixOf_iff_prefix.mp h
  unfold replace split
  rw [splitAux, if_neg hprefix, splitAux_eq_modifyHead]
  obtain ⟨l, ls, hls⟩ := List.exists_cons_of_ne_nil (splitAux_ne_nil old 0 [] t)
  rw [hls]
  cases ls <;> rfl

theorem replace_append {old : Text} (h : old ≠ []) (new t : Text) :
    replace (old ++ t) old new = new ++ replace t old new := by
  obtain ⟨c, cs, rfl⟩ := List.exists_cons_of_ne_nil h
  have hprefix : (c :: cs).isPrefixOf (c :: (cs ++ t)) = true :=
    List.isPrefixOf_iff_prefix.mpr (List.prefix_append (c :: cs) t)
  unfold replace split
  rw [List.cons_append, splitAux, if_pos hprefix, splitAux_eq_drop]
  have hdrop : (cs ++ t).drop ((c :: cs).length - 1) = t := List.drop_left
  rw [hdrop]
  obtain ⟨l, ls, hls⟩ := List.exists_cons_of_ne_nil (splitAux_ne_nil (c :: cs) 0 [] t)
  rw [hls, List.reverse_nil, join_cons_cons, List.nil_append]

/-! ## Replacing a character -/

section

variable {c d : Char} {new t : Text}

theorem replace_cons_self (c : Char) (new t : Text) :
    replace (c :: t) [c] new = new ++ replace t [c] new :=
  replace_append (List.cons_ne_nil c []) new t

theorem replace_cons_of_ne (h : d ≠ c) (new t : Text) :
    replace (d :: t) [c] new = d :: replace t [c] new :=
  replace_cons new fun hprefix => h (List.cons_prefix_cons.mp hprefix).1.symm

theorem replace_singleton (c : Char) (new t : Text) :
    replace t [c] new = t.flatMap fun d => if d = c then new else [d] := by
  induction t with
  | nil => rfl
  | cons d t ih =>
    rw [List.flatMap_cons, ← ih]
    by_cases hd : d = c
    · rw [if_pos hd, hd, replace_cons_self]
    · rw [if_neg hd, replace_cons_of_ne hd, List.singleton_append]

theorem replace_eq_self (h : c ∉ t) (new : Text) : replace t [c] new = t := by
  induction t with
  | nil => rfl
  | cons d t ih =>
    rw [replace_cons_of_ne (List.ne_of_not_mem_cons h).symm, ih (List.not_mem_of_not_mem_cons h)]

theorem mem_of_mem_replace (h : d ∈ replace t [c] new) : d ∈ new ∨ d ∈ t ∧ d ≠ c := by
  rw [replace_singleton, List.mem_flatMap] at h
  obtain ⟨x, hx, hmem⟩ := h
  split at hmem
  · exact .inl hmem
  · next hne =>
    obtain rfl := List.mem_singleton.mp hmem
    exact .inr ⟨hx, hne⟩

theorem not_mem_replace (h : c ∉ new) (t : Text) : c ∉ replace t [c] new :=
  fun hmem => (mem_of_mem_replace hmem).elim h fun hc => hc.2 rfl

/-- Two characters can be replaced in any order if neither comes in with the other. -/
theorem replace_comm {new' : Text} (hne : c ≠ d) (hc : c ∉ new') (hd : d ∉ new) (t : Text) :
    replace (replace t [c] new) [d] new' = replace (replace t [d] new') [c] new := by
  have hone (x : Char) : replace (if x = c then new else [x]) [d] new'
      = replace (if x = d then new' else [x]) [c] new := by
    by_cases hxc : x = c
    · subst hxc
      rw [if_pos rfl, if_neg hne, replace_eq_self hd, replace_cons_self]
      exact (List.append_nil new).symm
    by_cases hxd : x = d
    · subst hxd
      rw [if_neg hxc, if_pos rfl, replace_eq_self hc, replace_cons_self]
      exact List.append_nil new'
    · rw [if_neg hxc, if_neg hxd, replace_cons_of_ne hxd, replace_cons_of_ne hxc]
      rfl
  simp only [replace_singleton, List.flatMap_assoc] at hone ⊢
  exact congrArg (t.flatMap ·) (funext hone)

end

/-! ## Line ends -/

theorem unifyLines_return {rest : Text} (h : rest.head? ≠ some '\n') :
    unifyLines ('\x0d' :: rest) = '\n' :: unifyLines rest := by
  rw [unifyLines]
  rintro more rfl
  exact h rfl

theorem unifyLines_cons {c : Char} (h : c ≠ '\x0d') (rest : Text) :
    unifyLines (c :: rest) = c :: unifyLines rest := by
  rw [unifyLines]
  · exact fun _ hc => absurd hc h
  · exact h

/-- Replacing the pair first and then what is left of carriage returns unifies the line ends. -/
theorem replace_returns (t : Text) :
    replace (replace t ['\x0d', '\n'] ['\n']) ['\x0d'] ['\n'] = unifyLines t := by
  fun_induction unifyLines t with
  | case1 => rfl
  | case2 rest ih =>
    have hpair := replace_append (List.cons_ne_nil '\x0d' ['\n']) ['\n'] rest
    rw [List.cons_append, List.singleton_append, List.singleton_append] at hpair
    rw [hpair, replace_cons_of_ne (by decide), ih]
  | case3 rest hrest ih =>
    have hlone : ¬ ['\x0d', '\n'] <+: '\x0d' :: rest := by
      rintro ⟨more, hmore⟩
      exact hrest more (List.cons.inj hmore).2.symm
    rw [replace_cons _ hlone, replace_cons_self, ih, List.singleton_append]
  | case4 c rest _ hc ih =>
    have hother : ¬ ['\x0d', '\n'] <+: c :: rest :=
      fun h => hc (List.cons_prefix_cons.mp h).1.symm
    rw [replace_cons _ hother, replace_cons_of_ne hc, ih]

theorem mem_of_mem_unifyLines {t : Text} {c : Char} (hc : c ≠ '\n') (h : c ∈ unifyLines t) :
    c ∈ t := by
  fun_induction unifyLines t with
  | case1 => exact h
  | case2 rest ih =>
    exact List.mem_cons_of_mem _ (List.mem_cons_of_mem _ (ih (List.mem_of_ne_of_mem hc h)))
  | case3 rest hrest ih => exact List.mem_cons_of_mem _ (ih (List.mem_of_ne_of_mem hc h))
  | case4 d rest _ hd ih =>
    obtain rfl | h := List.mem_cons.mp h
    · exact List.mem_cons_self
    · exact List.mem_cons_of_mem _ (ih h)

/-- Where line ends are unified, it makes no difference which kind they are. -/
theorem unifyLines_replace {t newline : Text} (h : '\x0d' ∉ t)
    (hnewline : newline = ['\x0d', '\n'] ∨ newline = ['\x0d']) :
    unifyLines (replace t ['\n'] newline) = t := by
  induction t with
  | nil => rfl
  | cons c t ih =>
    have hrest := ih (List.not_mem_of_not_mem_cons h)
    by_cases hc : c = '\n'
    · subst hc
      rw [replace_cons_self]
      obtain rfl | rfl := hnewline
      · exact congrArg ('\n' :: ·) hrest
      · -- No line feed is left, so the carriage return is not the start of a pair.
        have hhead : (replace t ['\n'] ['\x0d']).head? ≠ some '\n' :=
          fun hhead => not_mem_replace (by decide) t (List.mem_of_mem_head? hhead)
        rw [List.singleton_append, unifyLines_return hhead, hrest]
    · rw [replace_cons_of_ne hc, unifyLines_cons (List.ne_of_not_mem_cons h).symm, hrest]

/-! ## Tidy texts -/

/-- A text without tabs, with one kind of line end, no blanks at the ends of its lines and no empty
lines at its end. -/
structure Neat (t : Text) : Prop where
  tab_not_mem : '\t' ∉ t
  return_not_mem : '\x0d' ∉ t
  isBlank_eq : ∀ l ∈ lines t, ∀ c ∈ l.getLast?, isBlank c = false
  last_ne_nil : t ≠ [] → (lines t).getLast? ≠ some []

/-- The text that is cut into lines. -/
def spaced (t : Text) : Text :=
  unifyLines (replace t ['\t'] (List.replicate 4 ' '))

/-- The lines of a text, those at its end that are empty left out. -/
def tidyLines (t : Text) : List Text :=
  ((lines (spaced t)).map stripRight).rdropWhile List.isEmpty

theorem tidy_eq (t : Text) : tidy t = unlines (tidyLines t) := by
  unfold tidy tidyLines spaced
  rw [← replace_returns]
  rfl

theorem exists_of_mem_tidyLines {t l : Text} (h : l ∈ tidyLines t) :
    ∃ a ∈ lines (spaced t), l = stripRight a := by
  obtain ⟨a, ha, rfl⟩ := List.mem_map.mp ((List.rdropWhile_prefix _ _).subset h)
  exact ⟨a, ha, rfl⟩

theorem lines_tidy {t : Text} (h : tidyLines t ≠ []) : lines (tidy t) = tidyLines t := by
  rw [tidy_eq]
  refine lines_unlines h fun l hl => ?_
  obtain ⟨a, ha, rfl⟩ := exists_of_mem_tidyLines hl
  exact fun hmem => not_mem_of_mem_lines ha ((Source.isPrefix_stripRight a).subset hmem)

theorem mem_of_mem_tidy {t : Text} {c : Char} (hc : c ≠ '\n') (h : c ∈ tidy t) :
    c ∈ spaced t := by
  by_cases hls : tidyLines t = []
  · rw [tidy_eq, hls] at h
    exact absurd h List.not_mem_nil
  obtain ⟨l, hl, hmem⟩ := (Source.mem_iff_mem_lines hc).mp h
  rw [lines_tidy hls] at hl
  obtain ⟨a, ha, rfl⟩ := exists_of_mem_tidyLines hl
  exact (Source.mem_iff_mem_lines hc).mpr ⟨a, ha, (Source.isPrefix_stripRight a).subset hmem⟩

theorem return_not_mem_spaced (t : Text) : '\x0d' ∉ spaced t :=
  not_mem_unifyLines _

theorem tab_not_mem_spaced (t : Text) : '\t' ∉ spaced t :=
  fun h => not_mem_replace (by decide) t (mem_of_mem_unifyLines (by decide) h)

theorem neat_nil : Neat [] := by
  refine ⟨List.not_mem_nil, List.not_mem_nil, fun l hl c hc => ?_, fun h => absurd rfl h⟩
  rw [List.mem_singleton.mp hl] at hc
  cases hc

/-- Nothing is cut off just if the last element is not of the kind to cut off. -/
theorem rdropWhile_eq_self_iff_getLast? {α : Type} {p : α → Bool} {l : List α} :
    l.rdropWhile p = l ↔ ∀ x ∈ l.getLast?, p x = false := by
  rw [List.rdropWhile_eq_self_iff]
  cases hlast : l.getLast? with
  | none => simp [List.getLast?_eq_none_iff.mp hlast]
  | some x =>
    obtain ⟨first, rfl⟩ := List.getLast?_eq_some_iff.mp hlast
    simp

theorem eq_false_of_getLast?_rdropWhile {α : Type} {p : α → Bool} {l : List α} {x : α}
    (h : x ∈ (l.rdropWhile p).getLast?) : p x = false :=
  rdropWhile_eq_self_iff_getLast?.mp (List.rdropWhile_idempotent p l) x h

theorem neat_tidy (t : Text) : Neat (tidy t) := by
  -- A text without lines that are kept is empty, and cut into lines it has an empty one.
  by_cases hls : tidyLines t = []
  · rw [tidy_eq, hls]
    exact neat_nil
  have hlines := lines_tidy hls
  refine ⟨fun h => ?_, fun h => ?_, fun l hl c hc => ?_, fun _ hlast => ?_⟩
  · exact tab_not_mem_spaced t (mem_of_mem_tidy (by decide) h)
  · exact return_not_mem_spaced t (mem_of_mem_tidy (by decide) h)
  · rw [hlines] at hl
    obtain ⟨a, -, rfl⟩ := exists_of_mem_tidyLines hl
    exact eq_false_of_getLast?_rdropWhile hc
  · rw [hlines] at hlast
    have hnonempty := eq_false_of_getLast?_rdropWhile hlast
    cases hnonempty

theorem Neat.tidy_eq_self {t : Text} (h : Neat t) : tidy t = t := by
  have hspaced : spaced t = t := by
    unfold spaced
    rw [replace_eq_self h.tab_not_mem, unifyLines_eq_self h.return_not_mem]
  have hstrip : (lines t).map stripRight = lines t := by
    refine (List.map_congr_left fun l hl => ?_).trans (List.map_id _)
    exact rdropWhile_eq_self_iff_getLast?.mpr (h.isBlank_eq l hl)
  rw [tidy_eq, tidyLines, hspaced, hstrip]
  by_cases ht : t = []
  · subst ht
    rfl
  · have hlast : (lines t).rdropWhile List.isEmpty = lines t := by
      refine rdropWhile_eq_self_iff_getLast?.mpr fun l hl => ?_
      rw [Bool.eq_false_iff, ne_eq, List.isEmpty_iff]
      rintro rfl
      exact h.last_ne_nil ht hl
    rw [hlast, unlines_lines]

theorem spaced_replace {t newline : Text} (h : '\x0d' ∉ t)
    (hnewline : newline = ['\x0d', '\n'] ∨ newline = ['\x0d']) :
    spaced (replace t ['\n'] newline) = spaced t := by
  have htab : '\t' ∉ newline := by
    obtain rfl | rfl := hnewline
    all_goals decide
  have hreturn : '\x0d' ∉ replace t ['\t'] (List.replicate 4 ' ') :=
    fun hmem => (mem_of_mem_replace hmem).elim (by decide) fun hc => h hc.1
  unfold spaced
  rw [replace_comm (by decide) (by decide) htab, unifyLines_replace hreturn hnewline,
    unifyLines_eq_self hreturn]

theorem tidy_replace {t newline : Text} (h : '\x0d' ∉ t)
    (hnewline : newline = ['\x0d', '\n'] ∨ newline = ['\x0d']) :
    tidy (replace t ['\n'] newline) = tidy t := by
  rw [tidy_eq, tidy_eq, tidyLines, spaced_replace h hnewline, ← tidyLines]

/-- Tidying gives a tidy text and leaves just those as they are, so doing it again does nothing. It
makes no difference to it which kind of line end a text has. -/
theorem tidy_tidies (t : Text) :
    Neat (tidy t) ∧ tidy (tidy t) = tidy t ∧ (tidy t = t ↔ Neat t)
      ∧ ('\x0d' ∉ t → tidy (replace t ['\n'] ['\x0d', '\n']) = tidy t
        ∧ tidy (replace t ['\n'] ['\x0d']) = tidy t) := by
  have hneat := neat_tidy t
  refine ⟨hneat, hneat.tidy_eq_self, ⟨fun h => ?_, Neat.tidy_eq_self⟩, fun h => ⟨?_, ?_⟩⟩
  · rw [← h]
    exact hneat
  · exact tidy_replace h (.inl rfl)
  · exact tidy_replace h (.inr rfl)

/-- A tab, blanks at the ends of lines and empty lines at the end. -/
def ragged : Text :=
  "a \x0c\n\tb\u00a0\n\n  \n"

theorem tidy_tidies_ragged :
    '\x0d' ∉ ragged ∧ tidy ragged = "a\n    b"
      ∧ tidy (replace ragged ['\n'] ['\x0d', '\n']) = tidy ragged
      ∧ tidy (replace ragged ['\n'] ['\x0d']) = tidy ragged := by
  have hreturn : '\x0d' ∉ ragged := by decide +kernel
  exact ⟨hreturn, by decide +kernel, (tidy_tidies ragged).2.2.2 hreturn⟩

end CodeReview.Text
