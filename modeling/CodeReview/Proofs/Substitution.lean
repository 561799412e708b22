import CodeReview.Pattern.Basic
import Mathlib.Data.List.Basic

/-!
# What a pattern takes, and what is put in its place

A set of characters that may come again takes at most as many characters as stand in a row at its
place, and a greedy search tries all numbers of them from the greatest down (`run_many_one`). A text
in which all matches are replaced is read from the left, and behind a match the reading goes on.
-/

namespace CodeReview.Pattern

/-! ## Places -/

namespace Cursor

/-- The place some characters further on. -/
def forward (c : Cursor) (n : Nat) : Cursor :=
  { c with
    pos := c.pos + n
    before := (c.rest.take n).reverse ++ c.before
    rest := c.rest.drop n }

@[simp] theorem forward_pos (c : Cursor) (n : Nat) : (c.forward n).pos = c.pos + n := rfl

@[simp] theorem forward_rest (c : Cursor) (n : Nat) : (c.forward n).rest = c.rest.drop n := rfl


@[simp] theorem forward_zero (c : Cursor) : c.forward 0 = c := rfl

theorem forward_one {c : Cursor} {a : Char} {rest : Text} (h : c.rest = a :: rest) :
    c.forward 1 = { c with pos := c.pos + 1, before := a :: c.before, rest := rest } := by
  unfold forward
  rw [h]
  rfl

theorem forward_forward (c : Cursor) (m n : Nat) : (c.forward m).forward n = c.forward (m + n) := by
  unfold forward
  simp only [List.take_add, List.drop_drop, List.reverse_append, List.append_assoc, Nat.add_assoc]

/-- What stands between two places. -/
theorem take_before_forward {c : Cursor} {n : Nat} (h : n ≤ c.rest.length) :
    ((c.forward n).before.take ((c.forward n).pos - c.pos)).reverse = c.rest.take n := by
  change (((c.rest.take n).reverse ++ c.before).take (c.pos + n - c.pos)).reverse = _
  have hlength : (c.rest.take n).reverse.length = c.pos + n - c.pos := by
    rw [List.length_reverse, List.length_take]
    omega
  rw [← hlength, List.take_left, List.reverse_reverse]

/-- The place with a group captured. -/
def capture (c : Cursor) (g : Nat) (t : Text) : Cursor :=
  { c with groups := (g, t) :: c.groups.filter fun e => e.1 ≠ g }

@[simp] theorem capture_pos (c : Cursor) (g : Nat) (t : Text) : (c.capture g t).pos = c.pos := rfl

@[simp] theorem capture_rest (c : Cursor) (g : Nat) (t : Text) :
    (c.capture g t).rest = c.rest := rfl

theorem forward_capture (c : Cursor) (g n : Nat) (t : Text) :
    (c.capture g t).forward n = (c.forward n).capture g t := rfl

theorem lookup_filter_ne {g h : Nat} (hne : h ≠ g) (groups : List (Nat × Text)) :
    (groups.filter fun e => e.1 ≠ g).lookup h = groups.lookup h := by
  induction groups with
  | nil => rfl
  | cons e es ih =>
    by_cases he : e.1 = g
    · rw [List.filter_cons_of_neg (by simp [he]), ih, List.lookup_cons, beq_false_of_ne (he ▸ hne)]
    · rw [List.filter_cons_of_pos (by simp [he]), List.lookup_cons, List.lookup_cons, ih]

@[simp] theorem lookup_capture (c : Cursor) (g h : Nat) (t : Text) :
    (c.capture g t).groups.lookup h = if h = g then some t else c.groups.lookup h := by
  rw [capture, List.lookup_cons]
  by_cases hg : h = g
  · simp [hg]
  · rw [if_neg hg, beq_false_of_ne hg]
    exact lookup_filter_ne hg c.groups

end Cursor

/-! ## Repetitions of a set of characters -/

/-- How many characters of a set stand in a row at a place. -/
def CharSet.room (s : CharSet) (c : Cursor) : Nat :=
  (c.rest.takeWhile s.has).length

namespace CharSet

variable {s : CharSet} {c : Cursor}

theorem room_le (s : CharSet) (c : Cursor) : s.room c ≤ c.rest.length :=
  (List.takeWhile_sublist _).length_le

theorem room_forward_one (h : 0 < s.room c) : s.room (c.forward 1) + 1 = s.room c := by
  unfold room at h ⊢
  rw [Cursor.forward_rest]
  cases hrest : c.rest with
  | nil => simp [hrest] at h
  | cons a rest =>
    rw [hrest] at h
    by_cases ha : s.has a = true
    · simp [ha]
    · simp [ha] at h

theorem room_forward {n : Nat} (h : n ≤ s.room c) : s.room (c.forward n) = s.room c - n := by
  induction n generalizing c with
  | zero => rfl
  | succ n ih =>
    have hone := room_forward_one (s := s) (c := c) (by omega)
    rw [Nat.add_comm n 1, ← Cursor.forward_forward, ih (by omega)]
    omega

end CharSet

section

variable (s : CharSet) (c : Cursor) (k : Next)

theorem run_both (p q : Pattern) : run (both p q) c k = run p c fun d => run q d k := rfl

theorem run_one : run (one s) c k = if 1 ≤ s.room c then k (c.forward 1) else none := by
  rw [run, Cursor.step, CharSet.room]
  cases hrest : c.rest with
  | nil => rfl
  | cons a rest =>
    have hforward := Cursor.forward_one hrest
    by_cases ha : s.has a = true
    · simp [ha, hforward]
    · simp [ha]

theorem times_one (n : Nat) :
    times (run (one s)) n c k = if n ≤ s.room c then k (c.forward n) else none := by
  induction n generalizing c with
  | zero => rfl
  | succ n ih =>
    rw [times, run_one]
    by_cases hroom : 1 ≤ s.room c
    · have hone := CharSet.room_forward_one hroom
      rw [if_pos hroom, ih, Cursor.forward_forward, Nat.add_comm 1 n]
      by_cases hn : n + 1 ≤ s.room c
      · rw [if_pos hn, if_pos (by omega)]
      · rw [if_neg hn, if_neg (by omega)]
    · rw [if_neg hroom, if_neg (by omega)]

/-- Numbers up to a bound, from the greatest down. -/
def downFrom (n : Nat) : List Nat :=
  (List.range (n + 1)).reverse

theorem downFrom_succ (n : Nat) : downFrom (n + 1) = (downFrom n).map (· + 1) ++ [0] := by
  unfold downFrom
  rw [List.range_succ_eq_map, List.reverse_cons, ← List.map_reverse]

theorem mem_downFrom {n j : Nat} : j ∈ downFrom n ↔ j ≤ n := by
  rw [downFrom, List.mem_reverse, List.mem_range]
  omega

/-- A search that can end well at one number only ends as it does there. -/
theorem findSome?_downFrom {n i : Nat} {f : Nat → Option Cursor} (hi : i ≤ n)
    (h : ∀ j ≤ n, j ≠ i → f j = none) : (downFrom n).findSome? f = f i := by
  cases hfi : f i with
  | none =>
    rw [List.findSome?_eq_none_iff]
    intro j hj
    by_cases hji : j = i
    · rw [hji, hfi]
    · exact h j (mem_downFrom.mp hj) hji
  | some d =>
    have hfound : ((downFrom n).findSome? f).isSome = true := by
      rw [List.findSome?_isSome_iff]
      exact ⟨i, mem_downFrom.mpr hi, by rw [hfi]; rfl⟩
    obtain ⟨e, he⟩ := Option.isSome_iff_exists.mp hfound
    obtain ⟨j, hj, hfj⟩ := List.exists_of_findSome?_eq_some he
    by_cases hji : j = i
    · rw [he, ← hfj, hji, hfi]
    · rw [h j (mem_downFrom.mp hj) hji] at hfj
      exact absurd hfj (by simp)

/-- Greedy rounds try all numbers of characters from the greatest down. -/
theorem rounds_one {fuel : Nat} {last : Option Nat} (hfuel : s.room c < fuel)
    (hlast : last ≠ some c.pos) :
    rounds (run (one s)) false fuel none last c k
      = (downFrom (s.room c)).findSome? fun j => k (c.forward j) := by
  induction fuel generalizing c last with
  | zero => omega
  | succ fuel ih =>
    have hstop : (decide ((none : Option Nat) = some 0) || decide (last = some c.pos)) = false := by
      simp [hlast]
    rw [rounds]
    simp only [hstop, Bool.false_eq_true, if_false, run_one, Option.map_none]
    by_cases hroom : 1 ≤ s.room c
    · have hone := CharSet.room_forward_one hroom
      have hmoved : some c.pos ≠ some (c.forward 1).pos := by simp [Cursor.forward]
      have hmore := ih (c.forward 1) (by omega) hmoved
      rw [if_pos hroom, hmore, ← hone, downFrom_succ, List.findSome?_append, List.findSome?_map]
      simp only [Cursor.forward_forward, Function.comp_def, Nat.add_comm 1,
        List.findSome?_singleton, Cursor.forward_zero]
      cases (downFrom (s.room (c.forward 1))).findSome? fun j => k (c.forward (j + 1)) <;> rfl
    · have hzero : s.room c = 0 := by omega
      rw [if_neg hroom, hzero]
      change k c = [0].findSome? fun j => k (c.forward j)
      rw [List.findSome?_singleton, Cursor.forward_zero]

/-- A set of characters as often as wanted. -/
theorem run_many_one : run (many (one s) 0 none .greedy) c k
    = (downFrom (s.room c)).findSome? fun j => k (c.forward j) := by
  have hroom := s.room_le c
  rw [run]
  simp only [Option.map_none, times]
  exact rounds_one s c k (by omega) (by simp)

/-- A set of characters a number of times. -/
theorem run_exactly_one (n : Nat) : run (many (one s) n (some n) .greedy) c k
    = if n ≤ s.room c then k (c.forward n) else none := by
  have hdone : ∀ d, rounds (run (one s)) false (c.rest.length + 2) (some 0) none d k = k d := by
    intro d
    rw [rounds]
    simp
  rw [run]
  simp only [Option.map_some, Nat.sub_self, hdone]
  exact times_one s c k n

/-- A group that takes a number of characters of a set captures them. -/
theorem run_group_exactly_one (g n : Nat) :
    run (group (some g) (many (one s) n (some n) .greedy)) c k
      = if n ≤ s.room c then
          k ((c.forward n).capture g (c.rest.take n))
        else none := by
  have hroom := s.room_le c
  rw [run, run_exactly_one]
  by_cases hn : n ≤ s.room c
  · rw [if_pos hn, if_pos hn]
    simp only [Cursor.take_before_forward (Nat.le_trans hn hroom), Cursor.capture]
  · rw [if_neg hn, if_neg hn]

theorem run_group_one (g : Nat) : run (group (some g) (one s)) c k
    = if 1 ≤ s.room c then
        k ((c.forward 1).capture g (c.rest.take 1))
      else none := by
  have hroom := s.room_le c
  rw [run, run_one]
  by_cases hn : 1 ≤ s.room c
  · rw [if_pos hn, if_pos hn]
    simp only [Cursor.take_before_forward (Nat.le_trans hn hroom), Cursor.capture]
  · rw [if_neg hn, if_neg hn]

/-- A captured character once more. -/
theorem run_again_one {g : Nat} {a : Char} (h : c.groups.lookup g = some [a]) :
    run (again g false false) c k
      = if c.rest.head? = some a then k (c.forward 1) else none := by
  rw [run, h]
  cases hrest : c.rest with
  | nil => simp [Cursor.take?, Cursor.step, hrest]
  | cons b rest =>
    have hforward := Cursor.forward_one hrest
    by_cases hb : b = a
    · simp [Cursor.take?, Cursor.step, hrest, hb, hforward]
    · simp [Cursor.take?, Cursor.step, hrest, hb, Ne.symm hb]

end

/-! ## Replacing -/

/-- Replaces all matches of a pattern that takes at least one character. `make` says what is put
in the place of a match, by the place behind it. `skip` counts the characters of a match that are
still to be passed over. -/
def replaceAux (p : Pattern) (make : Cursor → Text) : Nat → Text → Nat → Text → Text
  | _, _, _, [] => []
  | skip + 1, before, pos, a :: rest => replaceAux p make skip (a :: before) (pos + 1) rest
  | 0, before, pos, a :: rest =>
    match run p { pos := pos, before := before, rest := a :: rest, groups := [] } some with
    | some d => make d ++ replaceAux p make (d.pos - (pos + 1)) (a :: before) (pos + 1) rest
    | none => a :: replaceAux p make 0 (a :: before) (pos + 1) rest

def replaceAll (p : Pattern) (make : Cursor → Text) (t : Text) : Text :=
  replaceAux p make 0 [] 0 t

end CodeReview.Pattern
