import CodeReview.Proofs.Excess
import CodeReview.Proofs.Paths

/-!
# Queries that are put together with plus signs

A sum of texts is looked at one plus sign at a time, with the literals on its two sides. A literal
that mentions the query language stands on one side of some plus sign, whatever the shape of the
sum is, and it still mentions it with another literal beside it. The latter is not obvious: the
lower case of a sigma depends on what stands around it. But no other letter's does, and a sigma is
in no word of the query language.

Other literals are written out where they are formatted. A number with too many digits for that ends
the search, and then no sum is reported anywhere in the tree.
-/

namespace CodeReview

namespace Text

/-! ## Lower case of a text and of its parts -/

/-- All characters outside ASCII become the same. -/
def blur (c : Char) : Char :=
  if c.toNat < 128 then c else Char.ofNat 128

theorem blur_of_ascii {c : Char} (h : c.toNat < 128) : blur c = c :=
  if_pos h

theorem eq_of_blur_ascii {c : Char} (h : (blur c).toNat < 128) : blur c = c := by
  unfold blur at h ⊢
  split at h
  · next hc => exact if_pos hc
  · exact absurd h (by decide)

/-- Words of ASCII characters are found in a text that is blurred where they were before. -/
theorem infix_map_blur_iff {w t : Text} (hw : ∀ c ∈ w, c.toNat < 128) :
    w <:+: t.map blur ↔ w <:+: t := by
  constructor
  · rintro ⟨before, after, h⟩
    -- What was blurred to the word is cut out; being ASCII now, it was the word before.
    obtain ⟨_, after', rfl, h, _⟩ := List.map_eq_append_iff.mp h.symm
    obtain ⟨before', word, rfl, _, rfl⟩ := List.map_eq_append_iff.mp h
    have hword : word.map blur = word := by
      rw [List.map_congr_left (g := id), List.map_id]
      intro c hc
      exact eq_of_blur_ascii (hw _ (List.mem_map_of_mem hc))
    rw [hword]
    exact ⟨before', after', rfl⟩
  · intro h
    have hword : w.map blur = w := by
      rw [List.map_congr_left (g := id), List.map_id]
      exact fun c hc => blur_of_ascii (hw c hc)
    rw [← hword]
    exact h.map blur

theorem lowerOf_of_ascii {c : Char} (h : c.toNat < 128) (before after : Text) :
    lowerOf before c after = [c.toLower] := by
  rw [lowerOf, if_neg (by omega), if_neg (by omega), toLowerChar, if_pos h]

theorem map_toLower_eq_lowerAux {t : Text} (h : ∀ c ∈ t, c.toNat < 128) (before : Text) :
    t.map Char.toLower = lowerAux before t := by
  induction t generalizing before with
  | nil => rfl
  | cons c cs ih =>
    rw [List.forall_mem_cons] at h
    rw [lowerAux, lowerOf_of_ascii h.1, List.map_cons, ih h.2 (c :: before)]
    rfl

theorem lower_eq_lowerAux (t : Text) : lower t = lowerAux [] t := by
  unfold lower
  split
  · next h => exact map_toLower_eq_lowerAux (by simpa using h) []
  · rfl

/-- But for the two forms of a sigma, the lower case of a character is its own. -/
theorem map_blur_lowerOf (before : Text) (c : Char) (after : Text) :
    (lowerOf before c after).map blur = (lowerOf [] c []).map blur := by
  unfold lowerOf
  by_cases hsigma : c.toNat = 0x3A3
  · simp only [if_pos hsigma]
    split <;> decide
  · simp only [if_neg hsigma]

theorem map_blur_lower (t : Text) :
    (lower t).map blur = t.flatMap fun c => (lowerOf [] c []).map blur := by
  -- What stands before a character matters only to a sigma, and not once it is blurred.
  suffices h : ∀ before, (lowerAux before t).map blur
      = t.flatMap fun c => (lowerOf [] c []).map blur by
    rw [lower_eq_lowerAux, h]
  induction t with
  | nil => exact fun _ => rfl
  | cons c cs ih =>
    intro before
    rw [lowerAux, List.map_append, map_blur_lowerOf, ih, List.flatMap_cons]

theorem map_blur_lower_append (s t : Text) :
    (lower (s ++ t)).map blur = (lower s).map blur ++ (lower t).map blur := by
  rw [map_blur_lower, map_blur_lower, map_blur_lower, List.flatMap_append]

section

variable {w s t : Text} (hw : ∀ c ∈ w, c.toNat < 128)

include hw

theorem infix_lower_append_left (h : w <:+: lower s) : w <:+: lower (s ++ t) := by
  rw [← infix_map_blur_iff hw, map_blur_lower_append]
  exact ((infix_map_blur_iff hw).mpr h).trans (List.infix_append_left)

theorem infix_lower_append_right (h : w <:+: lower t) : w <:+: lower (s ++ t) := by
  rw [← infix_map_blur_iff hw, map_blur_lower_append]
  exact ((infix_map_blur_iff hw).mpr h).trans (List.infix_append_right)

end

end Text

namespace Source.Node

/-- An addition: what stands on both sides of a plus sign. -/
def IsSum (n : Node) : Prop :=
  ∃ span left right, n = .binary span left .add right

/-- What an expression with plus signs is put together from: the expression itself, and if it is a
sum, what its two sides are put together from. -/
inductive SumPart : Node → Node → Prop
  | whole (n : Node) : SumPart n n
  | left {span : Span} {left right n : Node} (h : SumPart left n) :
    SumPart (.binary span left .add right) n
  | right {span : Span} {left right n : Node} (h : SumPart right n) :
    SumPart (.binary span left .add right) n

/-- A text in quotes. -/
def IsText (n : Node) : Prop :=
  ∃ span t marked, n = .constant span (.text t marked)

variable {e n : Node}

theorem SumPart.reaches (h : SumPart e n) : Relation.ReflTransGen HasChild e n := by
  induction h with
  | whole => exact .refl
  | left _ ih => exact .head List.mem_cons_self ih
  | right _ ih => exact .head (List.mem_cons_of_mem _ List.mem_cons_self) ih

/-- What is only a part of a sum stands on one side of a plus sign in it. -/
theorem SumPart.exists_side (h : SumPart e n) (hne : e ≠ n) :
    ∃ span left right, SumPart e (.binary span left .add right) ∧ (left = n ∨ right = n) := by
  induction h with
  | whole => exact absurd rfl hne
  | @left span left right n _ ih =>
    by_cases hside : left = n
    · exact ⟨span, left, right, .whole _, .inl hside⟩
    · obtain ⟨s, l, r, hpart, hn⟩ := ih hside
      exact ⟨s, l, r, hpart.left, hn⟩
  | @right span left right n _ ih =>
    by_cases hside : right = n
    · exact ⟨span, left, right, .whole _, .inr hside⟩
    · obtain ⟨s, l, r, hpart, hn⟩ := ih hside
      exact ⟨s, l, r, hpart.right, hn⟩

end Source.Node

namespace Analysis

open Source

theorem sqlWords_ascii : ∀ w ∈ sqlWords, ∀ c ∈ w, c.toNat < 128 := by
  have hall : sqlWords.all (fun w => w.all fun c => c.toNat < 128) = true := by
    decide +kernel
  simpa only [List.all_eq_true, decide_eq_true_eq] using hall

theorem mentionsSql_iff {t : Text} :
    mentionsSql t = true ↔ ∃ w ∈ sqlWords, w <:+: Text.lower t := by
  rw [mentionsSql, List.any_eq_true]
  simp only [Text.contains_iff_isInfix]

/-- A text that mentions the query language does so with any other text before or after it. -/
theorem mentionsSql_append {s t : Text} (h : mentionsSql s = true ∨ mentionsSql t = true) :
    mentionsSql (s ++ t) = true := by
  simp only [mentionsSql_iff] at h ⊢
  rcases h with ⟨w, hw, hin⟩ | ⟨w, hw, hin⟩
  · exact ⟨w, hw, Text.infix_lower_append_left (sqlWords_ascii w hw) hin⟩
  · exact ⟨w, hw, Text.infix_lower_append_right (sqlWords_ascii w hw) hin⟩

theorem literalText_of_not_isText {n : Node} (h : ¬ n.IsText) : literalText n = [] := by
  unfold literalText
  split
  · exact absurd ⟨_, _, _, rfl⟩ h
  · rfl

/-- Without a literal nothing is mentioned. -/
theorem isText_of_mentionsSql {left right : Node}
    (h : mentionsSql (literalText left ++ literalText right) = true) :
    left.IsText ∨ right.IsText := by
  by_contra hnone
  rw [not_or] at hnone
  rw [literalText_of_not_isText hnone.1, literalText_of_not_isText hnone.2] at h
  exact absurd h (by decide)

/-- A node counts as a query in a sum just if it is a sum of which the literals on its two sides
mention the query language. -/
theorem buildsQuery_concat_iff {n : Node} :
    (∃ message suggestion : Text,
        buildsQuery n = some ("string_concat".toList, message, suggestion))
      ↔ ∃ span left right, n = .binary span left .add right
        ∧ mentionsSql (literalText left ++ literalText right) = true := by
  constructor
  · rintro ⟨message, suggestion, h⟩
    unfold buildsQuery at h
    split at h
    · next span left right =>
      split at h
      · next hmentions => exact ⟨span, left, right, rfl, hmentions⟩
      · exact nomatch h
    -- The other ways to build a query go by other names.
    · split at h
      · have hname : "fstring".toList = "string_concat".toList :=
          congrArg Prod.fst (Option.some.inj h)
        exact absurd hname (by decide)
      · exact nomatch h
    · split at h
      · have hname : "format".toList = "string_concat".toList :=
          congrArg Prod.fst (Option.some.inj h)
        exact absurd hname (by decide)
      · exact nomatch h
    · exact nomatch h
  · rintro ⟨span, left, right, rfl, hmentions⟩
    exact ⟨_, _, if_pos hmentions⟩

/-- The metadata of an issue about a sum. -/
def concatenated : List (Text × Value) :=
  [("pattern", .text "string_concat")]

theorem mem_queryIssues_iff {subject : Subject} {n : Node} {i : Issue} :
    i ∈ queryIssues subject n
      ↔ ∃ pattern message suggestion, buildsQuery n = some (pattern, message, suggestion)
        ∧ i = issueAt subject n "sql_injection" .critical message suggestion
          "security/sql-injection" [("pattern", .text pattern)] := by
  unfold queryIssues
  split
  · next hnone => simp [hnone]
  · next pattern message suggestion hsome =>
    rw [List.mem_singleton]
    constructor
    · rintro rfl
      exact ⟨_, _, _, hsome, rfl⟩
    · rintro ⟨_, _, _, hsome', rfl⟩
      obtain ⟨rfl, rfl, rfl⟩ : _ ∧ _ ∧ _ := by simpa using hsome.symm.trans hsome'
      rfl

/-- A number that is formatted, with more digits than can be written. -/
def FormatsTooLong (n : Node) : Prop :=
  ∃ span place at' number context args keywords, n = .call span
    (.attr place (.constant at' (.int number)) "format" context) args keywords
    ∧ Nat.pow 10 Number.digitLimit ≤ number

theorem tooLong_natCast (n : Nat) :
    (n : Number).tooLong = true ↔ Nat.pow 10 Number.digitLimit ≤ n := by
  unfold Number.tooLong
  -- The power is not to be computed.
  generalize Number.digitLimit = limit
  exact decide_eq_true_iff

theorem formatsTooLong_iff {n : Node} : formatsTooLong n = true ↔ FormatsTooLong n := by
  constructor
  · intro h
    unfold formatsTooLong at h
    split at h
    · rw [Bool.and_eq_true, decide_eq_true_eq, tooLong_natCast] at h
      obtain ⟨rfl, hlong⟩ := h
      exact ⟨_, _, _, _, _, _, _, rfl, hlong⟩
    · cases h
  · rintro ⟨span, place, at', number, context, args, keywords, rfl, hlong⟩
    rw [formatsTooLong, Bool.and_eq_true, decide_eq_true_eq, tooLong_natCast]
    exact ⟨rfl, hlong⟩

theorem queries_eq (subject : Subject) (tree : Node) :
    ((∃ n ∈ tree.walk, FormatsTooLong n) → queries subject tree = .error .tooManyDigits)
    ∧ ((∀ n ∈ tree.walk, ¬ FormatsTooLong n)
      → queries subject tree = .ok (tree.walk.flatMap (queryIssues subject))) := by
  simp only [← formatsTooLong_iff, queries]
  constructor
  · intro h
    rw [if_pos (List.any_eq_true.mpr h)]
  · intro h
    rw [if_neg (by simpa using h)]

/-- A tree in which a number with too many digits is formatted is not searched. In any other tree,
for every expression with plus signs, of any shape: if one of the texts in it mentions the query
language, then an issue stands at some sum in the expression. And each such issue stands at a sum
that has a literal on at least one side, and the literals on its sides, put together, mention the
query language. -/
theorem concatenation_reported (subject : Subject) (tree : Node) :
    ((∃ n ∈ tree.walk, FormatsTooLong n) → queries subject tree = .error .tooManyDigits)
    ∧ ((∀ n ∈ tree.walk, ¬ FormatsTooLong n) → ∃ found, queries subject tree = .ok found
      ∧ (∀ e ∈ tree.walk, e.IsSum → ∀ (span : Span) (t : Text) (marked : Bool),
        e.SumPart (.constant span (.text t marked)) → (∃ w ∈ sqlWords, w <:+: Text.lower t) →
        ∃ a, e.SumPart a ∧ a.IsSum ∧ ∃ i ∈ found,
          i.type = "sql_injection" ∧ i.metadata = concatenated ∧ i.place = a.place)
      ∧ ∀ i ∈ found, i.metadata = concatenated →
        ∃ span left right, Node.binary span left .add right ∈ tree.walk
          ∧ i.type = "sql_injection" ∧ i.place = Node.place (.binary span left .add right)
          ∧ (left.IsText ∨ right.IsText)
          ∧ ∃ w ∈ sqlWords, w <:+: Text.lower (literalText left ++ literalText right)) := by
  obtain ⟨hfails, hfinds⟩ := queries_eq subject tree
  refine ⟨hfails, fun hnone => ⟨_, hfinds hnone, ?_, ?_⟩⟩
  · rintro e he ⟨s, l, r, rfl⟩ span t marked hpart hmentions
    -- A literal is no sum, so it is not the whole expression and has a plus sign beside it.
    obtain ⟨s', left, right, hsum, hside⟩ := hpart.exists_side nofun
    have hliterals : mentionsSql (literalText left ++ literalText right) = true := by
      apply mentionsSql_append
      rw [← mentionsSql_iff] at hmentions
      rcases hside with rfl | rfl
      · exact .inl hmentions
      · exact .inr hmentions
    obtain ⟨message, suggestion, hbuilds⟩ :=
      buildsQuery_concat_iff.mpr ⟨s', left, right, rfl, hliterals⟩
    have hwalk : Node.binary s' left .add right ∈ tree.walk :=
      Node.mem_walk_iff.mpr ((Node.mem_walk_iff.mp he).trans hsum.reaches)
    have hissue : issueAt subject (.binary s' left .add right) "sql_injection" .critical message
        suggestion "security/sql-injection" concatenated ∈ queryIssues subject _ :=
      mem_queryIssues_iff.mpr ⟨_, _, _, hbuilds, rfl⟩
    exact ⟨_, hsum, ⟨s', left, right, rfl⟩, _, List.mem_flatMap.mpr ⟨_, hwalk, hissue⟩, rfl, rfl,
      rfl⟩
  · intro i hi hmeta
    obtain ⟨n, hn, hi⟩ := List.mem_flatMap.mp hi
    obtain ⟨pattern, message, suggestion, hbuilds, rfl⟩ := mem_queryIssues_iff.mp hi
    obtain rfl : pattern = "string_concat".toList := by
      simpa [issueAt, concatenated] using hmeta
    obtain ⟨span, left, right, rfl, hmentions⟩ :=
      buildsQuery_concat_iff.mp ⟨message, suggestion, hbuilds⟩
    exact ⟨span, left, right, hn, rfl, rfl, isText_of_mentionsSql hmentions,
      mentionsSql_iff.mp hmentions⟩

theorem mem_walk_assigned (span : Span) (targets : List Node) (e : Node) (after : List Node) :
    e ∈ (Node.module (.assign span targets e :: after)).walk := by
  rw [Node.mem_walk_iff]
  refine .head (b := .assign span targets e) List.mem_cons_self (.single ?_)
  exact List.mem_append_right targets List.mem_cons_self

/-- `x + ('SELECT ΟΔΟΣ' + 'Α')`: with the last letter the sigma ends no word. -/
def greekSum : Node :=
  .binary ⟨1, 4, 1⟩ (.name ⟨1, 4, 1⟩ "x" .load) .add
    (.binary ⟨1, 9, 1⟩ (.constant ⟨1, 9, 1⟩ (.text "SELECT ΟΔΟΣ" false)) .add
      (.constant ⟨1, 29, 1⟩ (.text "Α" false)))

/-- An assignment of the sum. -/
def greekTree : Node :=
  .module [.assign ⟨1, 0, 1⟩ [.name ⟨1, 0, 1⟩ "q" .store] greekSum]

theorem concatenation_reported_greek :
    (∀ n ∈ greekTree.walk, ¬ FormatsTooLong n)
      ∧ greekSum ∈ greekTree.walk ∧ greekSum.IsSum
      ∧ greekSum.SumPart (.constant ⟨1, 9, 1⟩ (.text "SELECT ΟΔΟΣ" false))
      ∧ (∃ w ∈ sqlWords, w <:+: Text.lower "SELECT ΟΔΟΣ")
      ∧ ∃ found, queries ⟨"a.py", "q = x + ('SELECT ΟΔΟΣ' + 'Α')"⟩ greekTree = .ok found
        ∧ ∃ i ∈ found, i.metadata = concatenated
          ∧ ∃ span left right, Node.binary span left .add right ∈ greekTree.walk
            ∧ i.place = Node.place (.binary span left .add right)
            ∧ (left.IsText ∨ right.IsText) := by
  have hnone : ∀ n ∈ greekTree.walk, ¬ FormatsTooLong n := by
    have hall : greekTree.walk.all (fun n => !formatsTooLong n) = true := by decide +kernel
    simpa [← formatsTooLong_iff] using hall
  have hwalk : greekSum ∈ greekTree.walk := mem_walk_assigned _ _ _ _
  have hsum : greekSum.IsSum := ⟨_, _, _, rfl⟩
  have hpart : greekSum.SumPart (.constant ⟨1, 9, 1⟩ (.text "SELECT ΟΔΟΣ" false)) :=
    .right (.left (.whole _))
  have hmentions : ∃ w ∈ sqlWords, w <:+: Text.lower "SELECT ΟΔΟΣ" :=
    mentionsSql_iff.mp (by decide +kernel)
  obtain ⟨found, hfound, hreported, hlocated⟩ :=
    (concatenation_reported ⟨"a.py", "q = x + ('SELECT ΟΔΟΣ' + 'Α')"⟩ greekTree).2 hnone
  obtain ⟨_, _, _, i, hi, _, hmeta, _⟩ :=
    hreported greekSum hwalk hsum _ _ _ hpart hmentions
  obtain ⟨span, left, right, hnode, _, hplace, htext, _⟩ := hlocated i hi hmeta
  exact ⟨hnone, hwalk, hsum, hpart, hmentions, found, hfound, i, hi, hmeta, span, left, right,
    hnode, hplace, htext⟩

/-- `'select ' + x`. -/
def plainSum : Node :=
  .binary ⟨1, 4, 1⟩ (.constant ⟨1, 4, 1⟩ (.text "select " false)) .add
    (.name ⟨1, 16, 1⟩ "x" .load)

/-- A call that formats a number with one digit too many. -/
def longCall : Node :=
  .call ⟨2, 0, 2⟩ (.attr ⟨2, 0, 2⟩ (.constant ⟨2, 1, 2⟩ (.int (Nat.pow 10 Number.digitLimit)))
    "format" .load) [] []

/-- An assignment of the sum, and the call. -/
def hidingTree : Node :=
  .module [.assign ⟨1, 0, 1⟩ [.name ⟨1, 0, 1⟩ "q" .store] plainSum, .exprStmt ⟨2, 0, 2⟩ longCall]

/-- The call hides the query in the line before it. -/
theorem concatenation_hidden :
    plainSum ∈ hidingTree.walk ∧ plainSum.IsSum
      ∧ plainSum.SumPart (.constant ⟨1, 4, 1⟩ (.text "select " false))
      ∧ (∃ w ∈ sqlWords, w <:+: Text.lower "select ")
      ∧ ∀ subject, queries subject hidingTree = .error .tooManyDigits := by
  have hsum : plainSum ∈ hidingTree.walk := mem_walk_assigned _ _ _ _
  have hcall : longCall ∈ hidingTree.walk := by
    rw [Node.mem_walk_iff]
    refine .head (b := .exprStmt ⟨2, 0, 2⟩ longCall) ?_ (.single List.mem_cons_self)
    exact List.mem_cons_of_mem _ List.mem_cons_self
  have hlong : FormatsTooLong longCall := ⟨_, _, _, _, _, _, _, rfl, Nat.le_refl _⟩
  exact ⟨hsum, ⟨_, _, _, rfl⟩, .left (.whole _), mentionsSql_iff.mp (by decide +kernel),
    fun subject => (queries_eq subject hidingTree).1 ⟨_, hcall, hlong⟩⟩

end Analysis

end CodeReview
