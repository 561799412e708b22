import CodeReview.Proofs.Chunks
import CodeReview.Text.Layout
import Mathlib.Data.List.TakeWhile

/-!
# Lines moved to the right and to the left

Moving to the left takes the least margin of the lines that are not blank off each of them. The
margins that are left have zero as the least one, so doing it again does nothing. Blanks put in
front of all lines add to every margin and so to the least one, and go away with it; only blank
lines keep them, since they are not moved back.
-/

namespace CodeReview.Text

/-! ## Blanks in front of a line -/

section

variable {w line : Text} {k : Nat}

theorem margin_append (hw : ∀ c ∈ w, isBlank c = true) (line : Text) :
    margin (w ++ line) = w.length + margin line := by
  unfold margin
  rw [List.takeWhile_append_of_pos hw, List.length_append]

theorem allBlank_append (hw : ∀ c ∈ w, isBlank c = true) (line : Text) :
    allBlank (w ++ line) = allBlank line := by
  unfold allBlank
  rw [List.all_append, List.all_eq_true.mpr hw, Bool.true_and]

/-- A part of the margin is blank. -/
theorem isBlank_of_mem_take (hk : k ≤ margin line) : ∀ c ∈ line.take k, isBlank c = true := by
  have hlead : line.take k <+: line.takeWhile isBlank := by
    refine List.prefix_of_prefix_length_le (List.take_prefix k line) (List.takeWhile_prefix _) ?_
    exact (List.length_take_le k line).trans hk
  exact fun c hc => List.mem_takeWhile_imp (hlead.subset hc)

theorem length_take_of_le_margin (hk : k ≤ margin line) : (line.take k).length = k :=
  List.length_take_of_le (hk.trans (List.takeWhile_prefix _).length_le)

theorem margin_eq_add (hk : k ≤ margin line) : margin line = k + margin (line.drop k) := by
  conv_lhs => rw [← List.take_append_drop k line]
  rw [margin_append (isBlank_of_mem_take hk), length_take_of_le_margin hk]

theorem allBlank_drop (hk : k ≤ margin line) : allBlank (line.drop k) = allBlank line := by
  conv_rhs => rw [← List.take_append_drop k line]
  exact (allBlank_append (isBlank_of_mem_take hk) _).symm

end

/-! ## The least margin -/

/-- A line moved to the left, if it is not blank. -/
def leftBy (k : Nat) (line : Text) : Text :=
  if allBlank line then line else line.drop k

/-- No line has a smaller margin, and one has this margin. Blank lines do not count; where there are
no others, every number will do. -/
structure LeastMargin (ls : List Text) (k : Nat) : Prop where
  le : ∀ l ∈ ls, allBlank l = false → k ≤ margin l
  exists_eq : (∃ l ∈ ls, allBlank l = false) → ∃ l ∈ ls, allBlank l = false ∧ margin l = k

section

variable {ls : List Text} {k n : Nat} {source : Text}

theorem LeastMargin.unique {k' : Nat} (h : LeastMargin ls k) (h' : LeastMargin ls k')
    (hls : ∃ l ∈ ls, allBlank l = false) : k = k' := by
  obtain ⟨l, hl, hblank, hk⟩ := h.exists_eq hls
  obtain ⟨l', hl', hblank', hk'⟩ := h'.exists_eq hls
  have hle := h.le l' hl' hblank'
  have hle' := h'.le l hl hblank
  omega

/-- The margins of the lines that count. -/
def margins (ls : List Text) : List Nat :=
  (ls.filter fun line => !allBlank line).map margin

theorem mem_margins_iff : k ∈ margins ls ↔ ∃ l ∈ ls, allBlank l = false ∧ margin l = k := by
  simp [margins, and_assoc]

theorem leastMargin_of_min? (h : (margins ls).min? = some k) : LeastMargin ls k := by
  obtain ⟨hmem, hle⟩ := List.min?_eq_some_iff.mp h
  exact ⟨fun l hl hblank => hle _ (mem_margins_iff.mpr ⟨l, hl, hblank, rfl⟩),
    fun _ => mem_margins_iff.mp hmem⟩

theorem allBlank_of_min? (h : (margins ls).min? = none) : ∀ l ∈ ls, allBlank l = true := by
  intro l hl
  by_contra hblank
  have hmem := mem_margins_iff.mpr ⟨l, hl, eq_false_of_ne_true hblank, rfl⟩
  rw [List.min?_eq_none_iff.mp h] at hmem
  exact List.not_mem_nil hmem

theorem exists_leastMargin (ls : List Text) : ∃ k, LeastMargin ls k := by
  cases hmin : (margins ls).min? with
  | none =>
    have hblank := allBlank_of_min? hmin
    refine ⟨0, fun _ _ _ => Nat.zero_le _, ?_⟩
    rintro ⟨l, hl, hfalse⟩
    rw [hblank l hl] at hfalse
    cases hfalse
  | some k => exact ⟨k, leastMargin_of_min? hmin⟩

theorem LeastMargin.dedent_eq (h : LeastMargin (lines source) k) :
    dedent source = unlines ((lines source).map (leftBy k)) := by
  unfold dedent
  extract_lets ls
  rw [← margins]
  split
  · next hmin =>
    -- There are blank lines only, which do not move, whatever the number is.
    have hsame : (lines source).map (leftBy k) = lines source := by
      refine (List.map_congr_left fun l hl => ?_).trans (List.map_id _)
      exact if_pos (allBlank_of_min? hmin l hl)
    rw [hsame, unlines_lines]
  · next least hmin =>
    -- The least margin is that of a line that counts, so it is the only one.
    obtain ⟨l, hl, hblank, -⟩ := mem_margins_iff.mp (List.min?_mem hmin)
    obtain rfl := h.unique (leastMargin_of_min? hmin) ⟨l, hl, hblank⟩
    rfl

/-! ## Lines that are moved -/

theorem lines_unlines_map {f : Text → Text} (h : ∀ l ∈ lines source, '\n' ∉ f l) :
    lines (unlines ((lines source).map f)) = (lines source).map f := by
  refine lines_unlines (by simpa using lines_ne_nil source) fun l hl => ?_
  obtain ⟨a, ha, rfl⟩ := List.mem_map.mp hl
  exact h a ha

theorem leftBy_zero (line : Text) : leftBy 0 line = line := by
  unfold leftBy
  split <;> rfl

theorem mem_of_mem_leftBy {line : Text} {c : Char} (h : c ∈ leftBy k line) : c ∈ line := by
  unfold leftBy at h
  split at h
  · exact h
  · exact List.mem_of_mem_drop h

theorem LeastMargin.lines_dedent (h : LeastMargin (lines source) k) :
    lines (dedent source) = (lines source).map (leftBy k) := by
  rw [h.dedent_eq]
  exact lines_unlines_map fun l hl hmem => not_mem_of_mem_lines hl (mem_of_mem_leftBy hmem)

theorem lines_indent (source : Text) (n : Nat) :
    lines (indent source n) = (lines source).map (repeated n ' ' ++ ·) := by
  unfold indent
  refine lines_unlines_map fun l hl hmem => ?_
  obtain hmem | hmem := List.mem_append.mp hmem
  · exact absurd (List.eq_of_mem_replicate hmem) (by decide)
  · exact not_mem_of_mem_lines hl hmem

/-- Moved to the left by their least margin, lines have zero as the least one. -/
theorem LeastMargin.map_leftBy (h : LeastMargin ls k) : LeastMargin (ls.map (leftBy k)) 0 := by
  refine ⟨fun _ _ _ => Nat.zero_le _, ?_⟩
  rintro ⟨_, hmem, hblank⟩
  obtain ⟨l, hl, rfl⟩ := List.mem_map.mp hmem
  have hcounts : allBlank l = false := by
    by_contra hnot
    rw [Bool.not_eq_false] at hnot
    rw [leftBy, if_pos hnot, hnot] at hblank
    cases hblank
  -- The line with the least margin has none when it is moved.
  obtain ⟨l', hl', hcounts', hmargin⟩ := h.exists_eq ⟨l, hl, hcounts⟩
  have hleft : leftBy k l' = l'.drop k := if_neg (by rw [hcounts']; exact Bool.false_ne_true)
  have hzero := margin_eq_add hmargin.ge
  refine ⟨leftBy k l', List.mem_map_of_mem hl', ?_, ?_⟩
  · rw [hleft, allBlank_drop hmargin.ge, hcounts']
  · rw [hleft]
    omega

theorem isBlank_of_mem_repeated (n : Nat) : ∀ c ∈ repeated n ' ', isBlank c = true := by
  intro c hc
  rw [List.eq_of_mem_replicate hc]
  decide

theorem LeastMargin.map_append (h : LeastMargin ls k) (n : Nat) :
    LeastMargin (ls.map (repeated n ' ' ++ ·)) (n + k) := by
  have hw := isBlank_of_mem_repeated n
  have hmargin (l : Text) : margin (repeated n ' ' ++ l) = n + margin l := by
    rw [margin_append hw, repeated, List.length_replicate]
  constructor
  · rintro _ hmem hblank
    obtain ⟨l, hl, rfl⟩ := List.mem_map.mp hmem
    rw [allBlank_append hw] at hblank
    rw [hmargin]
    exact Nat.add_le_add_left (h.le l hl hblank) n
  · rintro ⟨_, hmem, hblank⟩
    obtain ⟨l, hl, rfl⟩ := List.mem_map.mp hmem
    rw [allBlank_append hw] at hblank
    obtain ⟨l', hl', hblank', hk⟩ := h.exists_eq ⟨l, hl, hblank⟩
    refine ⟨_, List.mem_map_of_mem hl', ?_, ?_⟩
    · rw [allBlank_append hw, hblank']
    · rw [hmargin, hk]

theorem leftBy_append (n k : Nat) (line : Text) :
    leftBy (n + k) (repeated n ' ' ++ line)
      = if allBlank line then repeated n ' ' ++ line else leftBy k line := by
  have hdrop : (repeated n ' ' ++ line).drop (n + k) = line.drop k := by
    simp [repeated, List.drop_append]
  unfold leftBy
  rw [allBlank_append (isBlank_of_mem_repeated n), hdrop]
  split <;> rfl

end

/-- Moving to the left a second time does nothing. Moving to the right before it makes no difference
to the lines that are not blank, and the others are where it puts them. -/
theorem dedent_indent (source : Text) (n : Nat) :
    dedent (dedent source) = dedent source
      ∧ (lines (dedent (indent source n))).length = (lines (dedent source)).length
      ∧ (lines (dedent source)).length = (lines source).length
      ∧ lines (dedent (indent source n)) = List.zipWith
        (fun line left => if allBlank line then repeated n ' ' ++ line else left)
        (lines source) (lines (dedent source)) := by
  obtain ⟨k, hk⟩ := exists_leastMargin (lines source)
  have hdedent := hk.lines_dedent
  have hback : LeastMargin (lines (dedent source)) 0 := by
    rw [hdedent]
    exact hk.map_leftBy
  have hindent : LeastMargin (lines (indent source n)) (n + k) := by
    rw [lines_indent]
    exact hk.map_append n
  have hlines := hindent.lines_dedent
  rw [lines_indent, List.map_map] at hlines
  refine ⟨?_, ?_, ?_, ?_⟩
  · rw [hback.dedent_eq, funext leftBy_zero, List.map_id', unlines_lines]
  · rw [hlines, hdedent, List.length_map, List.length_map]
  · rw [hdedent, List.length_map]
  · rw [hlines, hdedent, List.zipWith_map_right, List.zipWith_self]
    exact List.map_congr_left fun line _ => leftBy_append n k line

-- The empty line in the middle keeps the blanks that were put in front of it.
example : dedent (indent "  a\n\n   b" 2) = "a\n  \n b" := by decide +kernel

end CodeReview.Text
