import CodeReview.Proofs.Cyclomatic
import CodeReview.Review
import CodeReview.Source.Tally
import Mathlib.Data.List.DropRight

/-!
# Lines counted in four places

The lines of a source are counted in an outline, in a review and in an overview by what each of them
holds, and once more by a tally that takes one line after the other. The tally also keeps track of
strings in three quotes. That has no part in what it counts, and it cannot make the tally fail: a
string is never open without the quotes that close it. So all four come to the same numbers,
whatever quotes there are in the text, and every line is counted as exactly one thing.
-/

namespace CodeReview

namespace Text

theorem strip_eq_nil_iff (t : Text) : strip t = [] ↔ allBlank t = true := by
  show (stripLeft t).rdropWhile isBlank = [] ↔ _
  rw [List.rdropWhile_eq_nil_iff, allBlank, List.all_eq_true]
  constructor
  · intro h
    -- otherwise the first character that is left would not be blank
    have hleft : t.dropWhile isBlank = [] := by
      by_contra hne
      have hhead := List.dropWhile_get_zero_not isBlank t (List.length_pos_iff.mpr hne)
      exact hhead (h _ (List.get_mem ..))
    exact List.dropWhile_eq_nil_iff.mp hleft
  · intro h c hc
    exact h c ((List.dropWhile_sublist isBlank).mem hc)

end Text

namespace Source

/-- A line that holds neither nothing nor a comment. -/
def isCodeLine (line : Text) : Bool :=
  !Text.allBlank line && !isCommentLine line

theorem not_isCommentLine_of_allBlank {line : Text} (h : Text.allBlank line = true) :
    isCommentLine line = false := by
  unfold isCommentLine
  rw [(Text.strip_eq_nil_iff line).mpr h]
  rfl

/-- Every line is counted as one thing. -/
theorem length_eq_countP (ls : List Text) :
    ls.length = ls.countP Text.allBlank + ls.countP isCommentLine + ls.countP isCodeLine := by
  induction ls with
  | nil => rfl
  | cons l ls ih =>
    rw [List.length_cons, List.countP_cons, List.countP_cons, List.countP_cons, ih]
    by_cases hblank : Text.allBlank l = true
    · have hcomment := not_isCommentLine_of_allBlank hblank
      have hcode : isCodeLine l = false := by simp [isCodeLine, hblank]
      rw [if_pos hblank, if_neg (by simp [hcomment]), if_neg (by simp [hcode])]
      omega
    · by_cases hcomment : isCommentLine l = true
      · have hcode : isCodeLine l = false := by simp [isCodeLine, hcomment]
        rw [if_neg hblank, if_pos hcomment, if_neg (by simp [hcode])]
        omega
      · have hcode : isCodeLine l = true := by simp [isCodeLine, hblank, hcomment]
        rw [if_neg hblank, if_neg hcomment, if_pos hcode]
        omega

/-! ## One line after the other -/

namespace Tally

/-- A string that is open has quotes to wait for. -/
def Sound (t : Tally) : Prop :=
  t.inString = true → t.quotes.isSome = true

/-- What a tally that started with `t` has come to after some lines. -/
structure Counted (t : Tally) (ls : List Text) (u : Tally) : Prop where
  sound : u.Sound
  blank : u.blank = t.blank + ls.countP Text.allBlank
  comments : u.comments = t.comments + ls.countP isCommentLine
  code : u.code = t.code + ls.countP isCodeLine

variable {t u v : Tally} {line : Text} {ls : List Text}

/-- Following the quotes of a line does not fail and counts nothing. -/
theorem exists_follow (h : t.Sound) (line : Text) :
    ∃ u, t.follow line = .ok u ∧ u.Sound
      ∧ u.blank = t.blank ∧ u.comments = t.comments ∧ u.code = t.code := by
  unfold follow
  by_cases hopen : t.inString = true
  · obtain ⟨quotes, hquotes⟩ := Option.isSome_iff_exists.mp (h hopen)
    rw [if_pos hopen, hquotes]
    refine ⟨_, rfl, ?_⟩
    split
    · exact ⟨fun hclosed => Bool.noConfusion hclosed, rfl, rfl, rfl⟩
    · exact ⟨h, rfl, rfl, rfl⟩
  · rw [if_neg hopen]
    split
    · extract_lets quotes
      refine ⟨_, rfl, ?_⟩
      by_cases honce : Text.countOf line quotes = 1
      · rw [if_pos honce]
        exact ⟨fun _ => rfl, rfl, rfl, rfl⟩
      · rw [if_neg honce]
        exact ⟨h, rfl, rfl, rfl⟩
    · exact ⟨t, rfl, h, rfl, rfl, rfl⟩

/-- A line is counted as what an outline counts it as. -/
theorem counted_count (h : t.Sound) (line : Text) :
    Counted t [line] (t.count (Text.strip line)) := by
  have hstarts : Text.startsWith (Text.strip line) ['#'] = isCommentLine line := by
    unfold isCommentLine Text.startsWith
    cases Text.strip line with
    | nil => rfl
    | cons c cs =>
      show ('#' == c && true) = decide (some c = some '#')
      rw [Bool.and_true, Bool.eq_iff_iff, beq_iff_eq, decide_eq_true_iff, Option.some.injEq]
      exact eq_comm
  have hempty : (Text.strip line).isEmpty = Text.allBlank line := by
    rw [Bool.eq_iff_iff, List.isEmpty_iff]
    exact Text.strip_eq_nil_iff line
  unfold count
  rw [hempty, hstarts]
  by_cases hblank : Text.allBlank line = true
  · have hcomment := not_isCommentLine_of_allBlank hblank
    rw [if_pos hblank]
    exact ⟨h, by simp [hblank], by simp [hcomment], by simp [isCodeLine, hblank]⟩
  · rw [if_neg hblank]
    by_cases hcomment : isCommentLine line = true
    · rw [if_pos hcomment]
      exact ⟨h, by simp [hblank], by simp [hcomment], by simp [isCodeLine, hcomment]⟩
    · rw [if_neg hcomment]
      exact ⟨h, by simp [hblank], by simp [hcomment], by simp [isCodeLine, hblank, hcomment]⟩

theorem exists_add (h : t.Sound) (line : Text) :
    ∃ u, t.add line = .ok u ∧ Counted t [line] u := by
  obtain ⟨f, hf, hsound, hblank, hcomments, hcode⟩ := exists_follow h (Text.strip line)
  have hcounted := counted_count hsound line
  refine ⟨f.count (Text.strip line), ?_, hcounted.sound, ?_, ?_, ?_⟩
  · show (t.follow (Text.strip line) >>= fun u => pure (u.count (Text.strip line))) = _
    rw [hf]
    rfl
  · rw [hcounted.blank, hblank]
  · rw [hcounted.comments, hcomments]
  · rw [hcounted.code, hcode]

theorem Counted.trans {ms : List Text} (h : Counted t ls u) (h' : Counted u ms v) :
    Counted t (ls ++ ms) v where
  sound := h'.sound
  blank := by rw [h'.blank, h.blank, List.countP_append, Nat.add_assoc]
  comments := by rw [h'.comments, h.comments, List.countP_append, Nat.add_assoc]
  code := by rw [h'.code, h.code, List.countP_append, Nat.add_assoc]

/-- The lines are counted to the end, and each as what it holds. -/
theorem exists_foldlM (h : t.Sound) (ls : List Text) :
    ∃ u, ls.foldlM add t = .ok u ∧ Counted t ls u := by
  induction ls generalizing t with
  | nil => exact ⟨t, rfl, h, rfl, rfl, rfl⟩
  | cons l ls ih =>
    obtain ⟨u, hu, hline⟩ := exists_add h l
    obtain ⟨v, hv, hrest⟩ := ih hline.sound
    refine ⟨v, ?_, hline.trans hrest⟩
    rw [List.foldlM_cons, hu]
    exact hv

theorem sound_start : ({} : Tally).Sound := by
  intro h
  cases h

end Tally

/-- What a tally of a text comes to. -/
theorem tallyLines_eq (source : Text) :
    tallyLines source = .ok
      { total := (Text.lines source).length
        blank := (Text.lines source).countP Text.allBlank
        comments := (Text.lines source).countP isCommentLine
        code := (Text.lines source).countP isCodeLine } := by
  obtain ⟨t, ht, hcounted⟩ := Tally.exists_foldlM Tally.sound_start (Text.lines source)
  have hblank := hcounted.blank
  have hcomments := hcounted.comments
  have hcode := hcounted.code
  simp only [Nat.zero_add] at hblank hcomments hcode
  unfold tallyLines
  extract_lets lines
  rw [ht, ← hblank, ← hcomments, ← hcode]
  rfl

theorem code_countLines (source : Text) (tree : Option Node) :
    (countLines source tree).code = (Text.lines source).countP isCodeLine := by
  have hsum := length_eq_countP (Text.lines source)
  show ((Text.lines source).length : Int) - _ - _ = _
  omega

end Source

namespace Analysis

open Source

/-- An overview shows the lines as metrics have them. -/
theorem lines_overview {source : Text} {tree : Node} (h : treeOf source = some tree) :
    Shows (overview source) "total_lines" (measure false source (some tree)).totalLines
      ∧ Shows (overview source) "blank_lines" (measure false source (some tree)).blankLines
      ∧ Shows (overview source) "comment_lines" (measure false source (some tree)).commentLines
      ∧ Shows (overview source) "code_lines" (measure false source (some tree)).linesOfCode := by
  refine ⟨?_, ?_, ?_, ?_⟩
  all_goals simp [Shows, overview, h, Value.field?, Value.record, Entries.get?, measure]

/-- The numbers of lines that a tally of a source comes to are those of its outline, of every review
of it, and of its overview if it has one; together they are all lines. The tally never fails, since
after any number of lines a string that is open has its quotes. -/
theorem line_counts_agree (source : Text) :
    ∃ t, tallyLines source = .ok t
      ∧ t.total = t.blank + t.comments + t.code
      ∧ (∀ n, ∃ u, ((Text.lines source).take n).foldlM Tally.add {} = .ok u
        ∧ (u.inString = true → u.quotes.isSome = true))
      ∧ (countLines source (treeOf source)).total = t.total
      ∧ (countLines source (treeOf source)).blank = t.blank
      ∧ (countLines source (treeOf source)).comments = t.comments
      ∧ (countLines source (treeOf source)).code = t.code
      ∧ (∀ (r : Reviewer) (path : Text),
        ∃ m, (r.reviewSource source path).result.metrics = some m
          ∧ m.totalLines = t.total ∧ m.blankLines = t.blank
          ∧ m.commentLines = t.comments ∧ m.linesOfCode = t.code)
      ∧ ∀ tree, treeOf source = some tree →
        Shows (overview source) "total_lines" t.total
          ∧ Shows (overview source) "blank_lines" t.blank
          ∧ Shows (overview source) "comment_lines" t.comments
          ∧ Shows (overview source) "code_lines" t.code := by
  refine ⟨_, tallyLines_eq source, length_eq_countP _, fun n => ?_, rfl, rfl, rfl,
    code_countLines source _, fun r path => ?_, fun tree htree => ?_⟩
  · obtain ⟨u, hu, hcounted⟩ :=
      Tally.exists_foldlM Tally.sound_start ((Text.lines source).take n)
    exact ⟨u, hu, hcounted.sound⟩
  · refine ⟨measure false source (treeOf source), rfl, rfl, rfl, rfl, ?_⟩
    exact congrArg Number.int (code_countLines source none)
  · obtain ⟨htotal, hblank, hcomments, hcode⟩ := lines_overview htree
    refine ⟨htotal, hblank, hcomments, ?_⟩
    rw [hcode.congr]
    exact congrArg Number.int (code_countLines source none)

/-- A string of four lines, one of them empty and one that looks like a comment. -/
def quotedLines : Text :=
  "x = '''\n# y\n\n\"\"\"'''  # z"

theorem line_counts_agree_quotedLines :
    (∃ tree, treeOf quotedLines = some tree)
      ∧ tallyLines quotedLines = .ok { total := 4, blank := 1, comments := 1, code := 2 }
      ∧ (countLines quotedLines (treeOf quotedLines)).code = 2
      ∧ Shows (overview quotedLines) "code_lines" (2 : Nat) := by
  have hparses : (treeOf quotedLines).isSome = true := by decide +kernel
  have htally : tallyLines quotedLines
      = .ok { total := 4, blank := 1, comments := 1, code := 2 } := by decide +kernel
  obtain ⟨tree, htree⟩ := Option.isSome_iff_exists.mp hparses
  obtain ⟨t, ht, _, _, _, _, _, hcode, _, hoverview⟩ := line_counts_agree quotedLines
  obtain rfl := Except.ok.inj (ht.symm.trans htally)
  exact ⟨⟨tree, htree⟩, htally, hcode, (hoverview tree htree).2.2.2⟩

end Analysis

end CodeReview
