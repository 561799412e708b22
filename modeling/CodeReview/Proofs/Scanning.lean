import CodeReview.Proofs.Tokens

/-!
# Lines of tokens

A place in a text is within `N` lines if its own line is and no line that can still be reached from
it lies further on. Every text that is scanned ends with a line feed, and the end of the text counts
as a place on the last line, so the line feeds that are left bound the lines that are left. A step
of the scanner moves over a part of the text and keeps this bound; what it finds stands on the line
where it was, and a token that goes over several lines ends before the text does.
-/

namespace CodeReview.Source

open Placed

theorem breaks_pos {t : Text} (h : t.getLast? = some '\n') : 1 ≤ breaks t :=
  List.countP_pos_iff.mpr ⟨'\n', List.mem_of_getLast? h, by decide⟩

namespace Token

/-! ## Places -/

/-- A place from which only the first `N` lines can be reached. -/
structure Cursor.Inside (N : Nat) (c : Cursor) : Prop where
  plain : '\x0d' ∉ c.rest
  first : 1 ≤ c.line
  /-- What is left ends with a line feed. -/
  closed : c.rest ≠ [] → c.rest.getLast? = some '\n'
  last : c.line + (breaks c.rest - 1) ≤ N

instance : Placed Cursor := ⟨Cursor.Inside⟩

namespace Cursor.Inside

variable {N : Nat} {c : Cursor} {taken rest : Text}

theorem line_le (h : Within N c) : c.line ≤ N :=
  Nat.le_trans (Nat.le_add_right ..) h.last

/-- What follows a part of the text still ends with a line feed. -/
theorem closed_of_append (h : Within N c) (e : c.rest = taken ++ rest) (hr : rest ≠ []) :
    rest.getLast? = some '\n' := by
  have hclosed := h.closed (by simp [e, hr])
  rw [e, List.getLast?_append, List.getLast?_eq_some_getLast hr, Option.some_or] at hclosed
  rw [List.getLast?_eq_some_getLast hr, hclosed]

/-- The end of the text is reached with a line feed only. -/
theorem rest_ne_nil (h : Within N c) (e : c.rest = taken ++ rest) (ht : taken ≠ [])
    (hend : taken.getLast? ≠ some '\n') : rest ≠ [] := by
  rintro rfl
  rw [List.append_nil] at e
  apply hend
  rw [← e]
  exact h.closed (by rwa [e])

theorem past (h : Within N c) (e : c.rest = taken ++ rest) : Within N (c.past taken rest) := by
  have hlast := h.last
  have hfirst := h.first
  rw [e, breaks_append] at hlast
  refine ⟨?_, ?_, ?_, ?_⟩
  · rw [past_rest]
    intro hmem
    apply h.plain
    rw [e]
    exact List.mem_append_right _ hmem
  · rw [past_line]
    split
    · next hend =>
      have hpos := breaks_pos hend.2
      omega
    · omega
  · rw [past_rest]
    exact closed_of_append h e
  · rw [past_rest, past_line]
    by_cases hr : rest = []
    · subst hr
      have hnil : breaks [] = 0 := rfl
      split
      · -- The line feed that ends the text starts no line.
        omega
      · next hend =>
        have htaken : taken = [] :=
          Decidable.byContradiction fun ht => rest_ne_nil h e ht (fun hl => hend ⟨rfl, hl⟩) rfl
        subst htaken
        omega
    · have hpos := breaks_pos (closed_of_append h e hr)
      rw [if_neg fun hend => hr hend.1]
      omega

/-- The place after a part of the text, unless it is the end of the text after a line feed. -/
theorem move (h : Within N c) (taken : Text) (e : c.rest = taken ++ rest)
    (hend : rest ≠ [] ∨ taken.getLast? ≠ some '\n') (col : Nat) :
    Within N { rest := rest, line := c.line + breaks taken, col := col : Cursor } := by
  have hpast := past h e
  have hline := past_line c taken rest
  have hrest := past_rest c taken rest
  rw [if_neg (by rintro ⟨hr, hl⟩; exact hend.elim (· hr) (· hl)), Nat.sub_zero] at hline
  obtain ⟨hplain, hfirst, hclosed, hlast⟩ := hpast
  rw [hrest] at hplain hclosed hlast
  rw [hline] at hfirst hlast
  exact ⟨hplain, hfirst, hclosed, hlast⟩

/-- A part of the text that does not end with a line feed stands within the lines. -/
theorem breaks_le (h : Within N c) (e : c.rest = taken ++ rest)
    (hend : taken.getLast? ≠ some '\n') : c.line + breaks taken ≤ N := by
  have hlast := h.last
  rw [e, breaks_append] at hlast
  by_cases ht : taken = []
  · subst ht
    have hnil : breaks [] = 0 := rfl
    omega
  · have hpos := breaks_pos (closed_of_append h e (rest_ne_nil h e ht hend))
    omega

end Cursor.Inside

/-! ## The scanner -/

structure Scanner.Inside (N : Nat) (s : Scanner) : Prop where
  here : Within N s.here
  found : Within N s.found

instance : Placed Scanner := ⟨Scanner.Inside⟩

instance : Placed Scanner.Next where
  Within N next := match next with
    | .line s | .within s => Within N s
    | .done tokens => Within N tokens

namespace Scanner

variable {N : Nat} {s : Scanner} {taken rest : Text}

/-- Scanning may stop on any of the lines, wherever the scanner stands. -/
theorem within_stop (h : Within N s.found) (hfirst : 1 ≤ s.here.line) (hlast : s.here.line ≤ N)
    (fault : Fault) (line : Nat) (eager : Bool) : Within N (s.stopAt fault line eager) :=
  Within.reverse ⟨⟨hfirst, hlast, List.not_mem_nil⟩, h⟩

theorem within_stopAt (h : Within N s) (fault : Fault) (line : Nat) (eager : Bool) :
    Within N (s.stopAt fault line eager) :=
  within_stop h.found h.here.first h.here.line_le fault line eager

theorem within_pushMark (h : Within N s) (kind : Kind) : Within N (s.pushMark kind) :=
  ⟨h.here, ⟨h.here.first, h.here.line_le, List.not_mem_nil⟩, h.found⟩

theorem within_pushMarks (h : Within N s) (kind : Kind) (n : Nat) :
    Within N (s.pushMarks kind n) := by
  induction n generalizing s with
  | zero => exact h
  | succ n ih => exact ih (within_pushMark h kind)

theorem within_brackets (h : Within N s) (brackets : List Bracket) :
    Within N { s with brackets := brackets } :=
  ⟨h.here, h.found⟩

theorem within_skip (h : Within N s) (taken : Text) (e : s.here.rest = taken ++ rest) :
    Within N { s with here := s.here.past taken rest } :=
  ⟨h.here.past e, h.found⟩

theorem within_push (h : Within N s) (kind : Kind) (e : s.here.rest = taken ++ rest)
    (hend : taken.getLast? ≠ some '\n') : Within N (s.push kind taken rest) := by
  refine ⟨h.here.past e, ⟨h.here.first, h.here.breaks_le e hend, ?_⟩, h.found⟩
  intro hmem
  apply h.here.plain
  rw [e]
  exact List.mem_append_left _ hmem

/-- A step within a line stays within the lines. -/
theorem within_of_moves {next : Next} (hm : Moves s next) (h : Within N s) : Within N next := by
  cases hm with
  | stop => exact within_stopAt h ..
  | finish => exact Within.reverse (within_pushMark h .finish).found
  | skip e _ => exact within_skip h _ e
  | token brackets e _ hend _ => exact within_push (within_brackets h brackets) _ e hend
  | lineEnd e =>
    unfold markBreak
    split
    · exact within_skip (within_pushMark h .newline) ['\n'] e
    · exact within_skip h ['\n'] e

theorem within_readMargin {m : Margin} {line col : Nat} {text : Text}
    (h : Within N ({ rest := text, line := line, col := col } : Cursor)) :
    (∀ m' c, readMargin m line col text = .ok (m', c) → Within N c) ∧
      ∀ fault l, readMargin m line col text = .error (fault, l) → 1 ≤ l ∧ l ≤ N := by
  fun_induction readMargin m line col text with
  | case1 m line col rest ih => exact ih (h.move [' '] rfl (.inr (by decide)) _)
  | case2 m line col rest ih => exact ih (h.move ['\t'] rfl (.inr (by decide)) _)
  | case3 m line col rest ih => exact ih (h.move ['\x0c'] rfl (.inr (by decide)) _)
  | case4 m line col =>
    refine ⟨fun m' c e => (by cases e), fun fault l e => ?_⟩
    cases e
    exact ⟨h.first, h.line_le⟩
  | case5 m line col rest hrest ih => exact ih (h.move ['\\', '\n'] rfl (.inl hrest) _)
  | case6 m line col tail _ _ =>
    refine ⟨fun m' c e => (by cases e), fun fault l e => ?_⟩
    cases e
    exact ⟨h.first, h.line_le⟩
  | case7 m line col rest =>
    refine ⟨fun m' c e => ?_, fun fault l e => by cases e⟩
    cases e
    exact h

theorem within_indented (h : Within N s) (levels : List (Nat × Nat)) (entered : Bool) (left : Nat) :
    Within N (s.indented levels entered left) := by
  have hs : Within N { s with levels := levels } := ⟨h.here, h.found⟩
  unfold indented
  split
  · exact within_pushMark hs .indent
  · exact within_pushMarks hs .dedent left

theorem within_of_starts {next : Next} (hm : Starts s next) (h : Within N s) : Within N next := by
  obtain ⟨hok, herror⟩ := within_readMargin (m := { width := 0, narrow := 0, kept := 0 }) h.here
  cases hm with
  | @stop why line hread place hplace =>
    obtain ⟨hfirst, hlast⟩ := herror why line hread
    obtain rfl | rfl := hplace
    · exact within_stopAt h ..
    · -- The scanner is put on the line of the fault before it stops.
      exact within_stop (s := { s with here := { s.here with line := place } }) h.found hfirst
        hlast ..
  | blank hread e _ => exact within_skip (s := { s with here := _ }) ⟨hok _ _ hread, h.found⟩ _ e
  | @comment m c hread _ e =>
    exact within_skip (s := { s with here := c }) ⟨hok _ _ hread, h.found⟩ _
      (by rw [List.append_nil, e])
  | @enter m c hread =>
    have hs : Within N { s with here := c } := ⟨hok _ _ hread, h.found⟩
    unfold Scanner.enter
    split
    · exact hs
    split
    · exact within_stopAt hs ..
    · exact within_indented hs ..

theorem within_of_leads {next : Next} {tokens : List Token} (hl : Leads next tokens)
    (h : Within N next) : Within N tokens := by
  induction hl with
  | done => exact h
  | line _ ih => exact ih (within_of_starts (starts_scanLine _) h)
  | within _ ih => exact ih (within_of_moves (moves_scanWithin _) h)

end Scanner

/-! ## Whole texts -/

theorem not_mem_unifyLines (text : Text) : '\x0d' ∉ unifyLines text := by
  fun_induction unifyLines text with
  | case1 => exact List.not_mem_nil
  | case2 rest ih => exact List.not_mem_cons_of_ne_of_not_mem (by decide) ih
  | case3 rest _ ih => exact List.not_mem_cons_of_ne_of_not_mem (by decide) ih
  | case4 c rest _ hc ih =>
    refine List.not_mem_cons_of_ne_of_not_mem ?_ ih
    rintro rfl
    exact hc rfl

/-- A text without carriage returns is left as it is. -/
theorem unifyLines_eq_self {text : Text} (h : '\x0d' ∉ text) : unifyLines text = text := by
  fun_induction unifyLines text with
  | case1 => rfl
  | case2 rest _ => exact absurd List.mem_cons_self h
  | case3 rest _ _ => exact absurd List.mem_cons_self h
  | case4 c rest _ _ ih => rw [ih (List.not_mem_of_not_mem_cons h)]

/-- The tokens of a text stand on its lines. -/
theorem within_scanAt {N line col : Nat} {source : Text} (hfirst : 1 ≤ line)
    (hlast : line + breaks (unifyLines source) ≤ N) : Within N (scanAt line col source) := by
  have hplain := not_mem_unifyLines source
  refine Scanner.within_of_leads (leads_scanAt line col source) ⟨⟨?_, hfirst, ?_, ?_⟩, trivial⟩
  all_goals
    dsimp only [closedText]
    split
  · exact hplain
  · rw [List.mem_append]
    exact fun h => h.elim hplain (by decide)
  · exact fun _ => ‹_›
  · exact fun _ => List.getLast?_concat
  · omega
  · have hone : breaks ['\n'] = 1 := by decide
    rw [breaks_append, hone]
    omega

end Token

end CodeReview.Source
