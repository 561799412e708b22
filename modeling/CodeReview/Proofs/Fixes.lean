import CodeReview.Assist.Adviser
import CodeReview.Proofs.Conversations
import CodeReview.Proofs.Tidying

/-!
# Fixes that are read back

An answer in the form that the question asks for is read back as what it tells. The marks of the
form need not be kept out of all its parts; they only must not be found too early or too late. No
mark has its first character again, and the parts are set apart by line feeds, which no mark has, so
no mark stands across the place where two parts meet.
-/

namespace CodeReview

/-! ## Marks in a text -/

namespace Text

variable {mark t rest : Text} {c : Char}

/-- No occurrence of the mark starts in `t` when `rest` follows. -/
def Clear (mark t rest : Text) : Prop :=
  ∀ before after, t = before ++ after → after ≠ [] → ¬ mark <+: after ++ rest

theorem Clear.tail (h : Clear mark (c :: t) rest) : Clear mark t rest :=
  fun before after ht => h (c :: before) after (by rw [ht, List.cons_append])

theorem Clear.not_isPrefixOf (h : Clear mark (c :: t) rest) :
    ¬ mark.isPrefixOf (c :: (t ++ rest)) = true :=
  mt List.isPrefixOf_iff_prefix.mp (h [] (c :: t) rfl (List.cons_ne_nil c t))

theorem Clear.append {s : Text} (hs : Clear mark s (t ++ rest)) (ht : Clear mark t rest) :
    Clear mark (s ++ t) rest := by
  intro before after hsplit hne
  rcases List.append_eq_append_iff.mp hsplit with ⟨between, rfl, hafter⟩ | ⟨between, hs', rfl⟩
  · exact ht between after hafter hne
  · by_cases hnone : between = []
    · subst hnone
      exact ht [] t rfl hne
    · rw [List.append_assoc]
      exact hs before between hs' hnone

/-- A mark does not start where its first character is missing. -/
theorem clear_of_not_mem {cs : Text} (hmark : mark = c :: cs) (h : c ∉ t) : Clear mark t rest := by
  subst hmark
  intro before after ht hne hstart
  obtain ⟨d, after, rfl⟩ := List.exists_cons_of_ne_nil hne
  obtain ⟨rfl, -⟩ := List.cons_prefix_cons.mp hstart
  exact h (ht ▸ List.mem_append_right before List.mem_cons_self)

/-- A mark ends before what cannot go on with it. -/
theorem prefix_of_prefix_append (hne : t ≠ []) (hrest : ∀ c ∈ rest.head?, c ∉ mark.tail)
    (h : mark <+: t ++ rest) : mark <+: t := by
  rcases List.prefix_or_prefix_of_prefix h (List.prefix_append t rest) with hin | ⟨s, rfl⟩
  · exact hin
  · rw [List.prefix_append_right_inj] at h
    obtain ⟨d, t, rfl⟩ := List.exists_cons_of_ne_nil hne
    cases s with
    | nil => exact ⟨[], by simp⟩
    | cons c s =>
      obtain ⟨more, rfl⟩ := h
      exact absurd (List.mem_append_right t List.mem_cons_self) (hrest c rfl)

theorem clear_of_lacks (h : ¬ mark <:+: t) (hrest : ∀ c ∈ rest.head?, c ∉ mark.tail) :
    Clear mark t rest := by
  rintro before after rfl hne hmark
  exact h ((prefix_of_prefix_append hne hrest hmark).isInfix.trans
    (List.suffix_append before after).isInfix)

theorem clear_line {cs : Text} (hmark : mark = c :: cs) (hc : c ∉ ['\n']) (h : ¬ mark <:+: t) :
    Clear mark ('\n' :: t) [] :=
  (clear_of_not_mem hmark hc).append (clear_of_lacks h (by simp))

theorem find?_append (h : Clear mark t rest) :
    find? (t ++ rest) mark = (find? rest mark).map (· + t.length) := by
  induction t with
  | nil => simp
  | cons c t ih =>
    rw [List.cons_append, find?, if_neg h.not_isPrefixOf, ih h.tail, Option.map_map]
    rfl

theorem find?_self (hne : mark ≠ []) (rest : Text) : find? (mark ++ rest) mark = some 0 := by
  obtain ⟨c, cs, rfl⟩ := List.exists_cons_of_ne_nil hne
  have hstart : (c :: cs).isPrefixOf (c :: (cs ++ rest)) = true :=
    List.isPrefixOf_iff_prefix.mpr (List.prefix_append (c :: cs) rest)
  rw [List.cons_append, find?, if_pos hstart]

theorem split_append (h : Clear mark t rest) :
    split (t ++ rest) mark = (split rest mark).modifyHead (t ++ ·) := by
  induction t with
  | nil =>
    rw [List.nil_append]
    cases split rest mark <;> rfl
  | cons c t ih =>
    have hrest : splitAux mark 0 [] (t ++ rest) = _ := ih h.tail
    rw [split, List.cons_append, splitAux, if_neg h.not_isPrefixOf, splitAux_eq_modifyHead, hrest,
      List.modifyHead_modifyHead]
    rfl

theorem split_of_clear (h : Clear mark t []) : split t mark = [t] := by
  have hall := split_append h
  rw [List.append_nil, show split [] mark = [[]] from rfl] at hall
  rw [hall, List.modifyHead_cons, List.append_nil]

theorem split_self (hne : mark ≠ []) (rest : Text) :
    split (mark ++ rest) mark = [] :: split rest mark := by
  obtain ⟨c, cs, rfl⟩ := List.exists_cons_of_ne_nil hne
  have hstart : (c :: cs).isPrefixOf (c :: (cs ++ rest)) = true :=
    List.isPrefixOf_iff_prefix.mpr (List.prefix_append (c :: cs) rest)
  have hdrop : (cs ++ rest).drop ((c :: cs).length - 1) = rest := List.drop_left
  rw [split, List.cons_append, splitAux, if_pos hstart, splitAux_eq_drop, hdrop]
  rfl

/-- The last piece is what comes behind a mark that stands at the start of a line. -/
theorem getLast?_splitAux (hne : mark ≠ []) (hc : c ∉ mark) (rest : Text) {skip : Nat} {x : Text}
    (hskip : skip ≤ x.length) (acc : Text) :
    (splitAux mark skip acc (x ++ c :: (mark ++ rest))).getLast? = (split rest mark).getLast? := by
  have hcons : ∀ p ps, ps ≠ [] → (p :: ps : List Text).getLast? = ps.getLast? := by
    intro p ps hps
    obtain ⟨q, qs, rfl⟩ := List.exists_cons_of_ne_nil hps
    exact List.getLast?_cons_cons
  induction x generalizing skip acc with
  | nil =>
    obtain rfl : skip = 0 := Nat.le_zero.mp hskip
    have hstart : ¬ mark.isPrefixOf (c :: (mark ++ rest)) = true := fun h => by
      obtain ⟨d, ds, rfl⟩ := List.exists_cons_of_ne_nil hne
      obtain ⟨rfl, -⟩ := List.cons_prefix_cons.mp (List.isPrefixOf_iff_prefix.mp h)
      exact hc List.mem_cons_self
    have hself : splitAux mark 0 [] (mark ++ rest) = _ := split_self hne rest
    rw [List.nil_append, splitAux, if_neg hstart, splitAux_eq_modifyHead, hself]
    exact hcons _ _ (splitAux_ne_nil mark 0 [] rest)
  | cons d x ih =>
    cases skip with
    | succ skip => exact ih (Nat.le_of_succ_le_succ hskip) acc
    | zero =>
      rw [List.cons_append, splitAux]
      split
      · rename_i hstart
        -- The occurrence ends before the line feed, so what is skipped does too.
        have hend : ∀ e ∈ (c :: (mark ++ rest)).head?, e ∉ mark.tail := fun e he h =>
          hc (Option.some.inj he ▸ List.mem_of_mem_tail h)
        have hin := prefix_of_prefix_append (List.cons_ne_nil d x) hend
          (List.isPrefixOf_iff_prefix.mp hstart)
        have hlength : mark.length - 1 ≤ x.length := Nat.sub_le_of_le_add hin.length_le
        rw [hcons _ _ (splitAux_ne_nil _ _ _ _)]
        exact ih hlength []
      · exact ih (Nat.zero_le _) (d :: acc)

end Text

/-! ## The form of an answer -/

namespace Assist.Fix

open Text Prompt

theorem codeMark_eq : codeMark = ['F', 'I', 'X', 'E', 'D', ' ', 'C', 'O', 'D', 'E', ':'] := rfl

theorem reasonMark_eq :
    reasonMark = ['E', 'X', 'P', 'L', 'A', 'N', 'A', 'T', 'I', 'O', 'N', ':'] := rfl

theorem fence_eq : fence = ['`', '`', '`'] := rfl

/-- A block of code is found between the first two fences. -/
theorem fencedIn_append {before inner after : Text}
    (hbefore : Clear fence before (fence ++ (inner ++ (fence ++ after))))
    (hinner : Clear fence inner (fence ++ after)) :
    fencedIn (before ++ (fence ++ (inner ++ (fence ++ after))))
      = if startsWith (fence ++ inner ++ fence) "```python"
        then fence ++ (fence ++ inner ++ fence).drop 9 else fence ++ inner ++ fence := by
  have hne : fence ≠ [] := List.cons_ne_nil _ _
  have hstart : find? (before ++ (fence ++ (inner ++ (fence ++ after)))) fence
      = some before.length := by
    rw [find?_append hbefore, find?_self hne, Option.map_some, Nat.zero_add]
  have hstop : findFrom? (before ++ (fence ++ (inner ++ (fence ++ after)))) fence
      (before.length + 3) = some (inner.length + (before.length + 3)) := by
    have hdrop : (before ++ (fence ++ (inner ++ (fence ++ after)))).drop (before.length + 3)
        = inner ++ (fence ++ after) := by
      rw [← List.append_assoc]
      exact List.drop_left' (by rw [List.length_append]; rfl)
    rw [findFrom?, if_pos (by simp [fence_eq]), hdrop, find?_append hinner, find?_self hne,
      Option.map_some, Option.map_some, Nat.zero_add]
  have hblock : ((before ++ (fence ++ (inner ++ (fence ++ after)))).drop before.length).take
      (inner.length + (before.length + 3) + 3 - before.length) = fence ++ inner ++ fence := by
    rw [List.drop_left, ← List.append_assoc fence, ← List.append_assoc]
    exact List.take_left' (by simp [fence_eq]; omega)
  simp only [fencedIn, hstart, hstop, hblock]

/-- What comes behind the first mark of an answer. -/
def body (code reason : Text) : Text :=
  ['\n'] ++ (fence ++ ("python\n".toList ++ code ++ ['\n'] ++ (fence
    ++ (['\n', '\n'] ++ (reasonMark ++ '\n' :: reason)))))

theorem unlines_fixLines (code reason : Text) :
    unlines (fixLines code reason) = codeMark ++ body code reason := by
  simp [unlines, join, fixLines, body, fence_eq]

variable {lead code reason : Text}

theorem clear_body (hcode : ¬ codeMark <:+: code) (hreason : ¬ codeMark <:+: reason) :
    Clear codeMark (body code reason) [] := by
  have hmiss : ∀ {s rest : Text}, 'F' ∉ s → Clear codeMark s rest := clear_of_not_mem codeMark_eq
  have hinner : ∀ rest, Clear codeMark ("python\n".toList ++ code ++ ['\n']) rest := fun rest =>
    ((hmiss (by simp)).append (clear_of_lacks hcode (by simp [codeMark_eq]))).append
      (hmiss (by simp))
  have hlast := clear_line codeMark_eq (by simp) hreason
  exact (hmiss (by simp)).append ((hmiss (by simp [fence_eq])).append ((hinner _).append
    ((hmiss (by simp [fence_eq])).append ((hmiss (by simp)).append
    ((hmiss (by simp [reasonMark_eq])).append hlast)))))

theorem fencedIn_body (hcode : ¬ fence <:+: code) (reason : Text) :
    fencedIn (body code reason) = "```\n" ++ code ++ "\n```" := by
  have hinner : Clear fence ("python\n".toList ++ code ++ ['\n'])
      (fence ++ (['\n', '\n'] ++ (reasonMark ++ '\n' :: reason))) :=
    ((clear_of_not_mem fence_eq (by simp)).append
      (clear_of_lacks hcode (by simp [fence_eq]))).append (clear_of_not_mem fence_eq (by simp))
  rw [body, fencedIn_append (clear_of_not_mem fence_eq (by simp)) hinner, if_pos (by rfl)]
  simp [fence_eq]

/-- The code may have the mark of the explanation in it: the last one is taken. -/
theorem split_body (code : Text) (hreason : ¬ reasonMark <:+: reason) :
    contains (body code reason) reasonMark = true
      ∧ (split (body code reason) reasonMark).getLast? = some ('\n' :: reason) := by
  have hlast := clear_line reasonMark_eq (by simp) hreason
  have hparts : body code reason
      = (['\n'] ++ fence ++ "python\n".toList ++ code ++ ['\n'] ++ fence ++ ['\n'])
        ++ '\n' :: (reasonMark ++ '\n' :: reason) := by
    simp [body]
  rw [hparts]
  constructor
  · rw [contains_iff_isInfix, List.append_cons]
    exact ⟨_, _, List.append_assoc _ _ _⟩
  · have h := getLast?_splitAux (show reasonMark ≠ [] from List.cons_ne_nil _ _)
      (show '\n' ∉ reasonMark by simp [reasonMark_eq]) ('\n' :: reason)
      (Nat.zero_le
        (['\n'] ++ fence ++ "python\n".toList ++ code ++ ['\n'] ++ fence ++ ['\n']).length)
      []
    rwa [split_of_clear hlast] at h

theorem read_append (hlead : ¬ codeMark <:+: lead) {part : Text} (hpart : Clear codeMark part []) :
    read (lead ++ (codeMark ++ part))
      = { code := fencedIn part
          explanation := if contains part reasonMark
            then strip (((split part reasonMark).getLast?).getD [])
            else lead ++ (codeMark ++ part) } := by
  have hfirst : Clear codeMark lead (codeMark ++ part) :=
    clear_of_lacks hlead (by simp [codeMark_eq])
  rw [read, split_append hfirst, split_self (show codeMark ≠ [] from List.cons_ne_nil _ _),
    split_of_clear hpart, List.modifyHead_cons]

/-- An answer in the form that is asked for, with any words before it, is read as what it tells. -/
theorem read_fixLines (hlead : ¬ codeMark <:+: lead) (hcode : ¬ codeMark <:+: code)
    (hreason : ¬ codeMark <:+: reason) (hfence : ¬ fence <:+: code)
    (hmark : ¬ reasonMark <:+: reason) :
    read (lead ++ unlines (fixLines code reason))
      = { code := "```\n" ++ code ++ "\n```", explanation := strip reason } := by
  obtain ⟨hfound, hlast⟩ := split_body code hmark
  rw [unlines_fixLines, read_append hlead (clear_body hcode hreason), fencedIn_body hfence,
    if_pos hfound, hlast]
  rfl

example : unlines (fixLines "c" "e") = "FIXED CODE:\n```python\nc\n```\n\nEXPLANATION:\ne" := by
  decide

end Assist.Fix

/-- Lines that stand together in a text. -/
def Text.Shows (t : Text) (ls : List Text) : Prop :=
  ∃ before after, t = Text.unlines (before ++ ls ++ after)

theorem Text.shows_sections (before after : List (List Text)) (ls : List Text) :
    (Text.sections (before ++ ls :: after)).Shows ls :=
  ⟨before.flatten, after.flatten, by
    rw [Text.sections, List.flatten_append, List.flatten_cons, List.append_assoc]⟩

namespace Assist.Adviser

open Text Prompt

/-- The question for a fix shows the form of the answer. If it is answered in that form, the fix has
the code and the explanation of the answer. There may be any words before it. The code may have the
mark of the explanation in it, and the explanation may have blocks of code. -/
theorem fix_decoded (a : Adviser) {i : Issue} {s : Severity} (hs : i.severity = .level s)
    (context : Text) (o : Outlet Text) (lead code reason : Text) (hlead : ¬ codeMark <:+: lead)
    (hcode : ¬ codeMark <:+: code) (hreason : ¬ codeMark <:+: reason) (hfence : ¬ fence <:+: code)
    (hmark : ¬ reasonMark <:+: reason)
    (hanswer : a.outcome o 0 = .ok (lead ++ unlines (fixLines code reason))) :
    ∃ o', a.Calls o [⟨Prompt.fix i s context, a.outcome o 0⟩] o'
      ∧ (∃ c e, (Prompt.fix i s context).Shows (fixLines c e))
      ∧ (a.fix i context).run o
        = (.ok { code := "```\n" ++ code ++ "\n```", explanation := strip reason }, o') := by
  obtain ⟨o', hask, hcalls⟩ := a.exists_ask (Prompt.fix i s context) o
  refine ⟨o', hcalls, ⟨_, _, shows_sections [_, _, _] [] _⟩, (fix_run hs hask).trans ?_⟩
  rw [hanswer, Except.map, Fix.read_fixLines hlead hcode hreason hfence hmark]

def todo : Issue where
  type := "todo_comment"
  severity := .level .low
  file := "a.py"
  line := 1
  message := []

/-- A client that answers with words before the fix, the mark of the explanation in the code, and a
block of code in the explanation. -/
def wordy : Outlet Text where
  line :=
    { answers := [.ok ("Sure.\n" ++ unlines (fixLines "x = 1  # EXPLANATION:" " See ```x```\n"))]
      silence := .broken "silent" }
  connected := true

theorem fix_decoded_wordy :
    ∃ o', ((⟨"anthropic", .null, .null⟩ : Adviser).fix todo []).run wordy
      = (.ok { code := "```\nx = 1  # EXPLANATION:\n```", explanation := "See ```x```" }, o') := by
  obtain ⟨o', -, -, hrun⟩ := fix_decoded ⟨"anthropic", .null, .null⟩ (i := todo) rfl [] wordy
    "Sure.\n" "x = 1  # EXPLANATION:" " See ```x```\n" (by decide) (by decide) (by decide)
    (by decide) (by decide) rfl
  exact ⟨o', hrun⟩

end Assist.Adviser

end CodeReview
