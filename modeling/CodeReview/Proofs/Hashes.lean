import CodeReview.Analysis.Security
import CodeReview.Proofs.Paths
import Mathlib.Data.List.Find

/-!
# Calls that are reported for a weak hash

A call is reported if its dotted name speaks of a weak hash: some component ends with `hashlib` and
the next one starts with the name of the hash. What follows in that component, and what other
components there are, is not looked at. So a name may speak of a hash that is not weak, and a name
that speaks of two hashes is reported for the one that is looked for first.
-/

namespace CodeReview

/-! ## Dotted names -/

namespace Text

variable {c : Char} {a b : Text}

theorem join_split (c : Char) (t : Text) : join [c] (split t [c]) = t := by
  rw [join_eq_intercalate, split_eq_splitOn]
  exact List.intercalate_splitOn c

theorem not_mem_of_mem_split {t piece : Text} (h : piece ∈ split t [c]) : c ∉ piece :=
  not_mem_of_mem_splitAux List.not_mem_nil h

/-- What has no separator in it starts joined pieces just if it starts the first of them. -/
theorem prefix_join_iff (hb : c ∉ b) (t : Text) (ts : List Text) :
    b <+: join [c] (t :: ts) ↔ b <+: t := by
  cases ts with
  | nil => rfl
  | cons u us =>
    rw [join_cons_cons, List.append_assoc]
    constructor
    · intro h
      rcases List.prefix_or_prefix_of_prefix h (List.prefix_append t _) with hshort | ⟨s, rfl⟩
      · exact hshort
      · rw [List.prefix_append_right_inj] at h
        cases s with
        | nil => simp
        | cons d s =>
          have hd : d = c := (List.cons_prefix_cons.mp h).1
          exact absurd (hd ▸ List.mem_append_right t List.mem_cons_self) hb
    · intro h
      exact h.trans (List.prefix_append t _)

/-- Two texts that are the same are the same before and behind their first separator. -/
theorem eq_of_first_eq {x y r s : Text} (hx : c ∉ x) (hy : c ∉ y)
    (h : x ++ c :: r = y ++ c :: s) : x = y ∧ r = s := by
  induction x generalizing y with
  | nil =>
    cases y with
    | nil => exact ⟨rfl, (List.cons.inj h).2⟩
    | cons d y => exact absurd ((List.cons.inj h).1 ▸ List.mem_cons_self) hy
  | cons d x ih =>
    cases y with
    | nil => exact absurd ((List.cons.inj h).1 ▸ List.mem_cons_self) hx
    | cons e y =>
      obtain ⟨rfl, hrest⟩ := List.cons.inj h
      rw [List.mem_cons, not_or] at hx hy
      obtain ⟨rfl, hsame⟩ := ih hx.2 hy.2 hrest
      exact ⟨rfl, hsame⟩

/-- A text with one separator stands across the first separator, or behind it. -/
theorem infix_across_iff (ha : c ∉ a) {t : Text} (ht : c ∉ t) (r : Text) :
    a ++ c :: b <:+: t ++ c :: r ↔ (a <:+ t ∧ b <+: r) ∨ a ++ c :: b <:+: r := by
  constructor
  · rintro ⟨s, e, h⟩
    by_cases hs : c ∈ s
    · obtain ⟨s₁, s₂, rfl, hs₁⟩ := List.eq_append_cons_of_mem hs
      simp only [List.append_assoc, List.cons_append] at h
      obtain ⟨-, hrest⟩ := eq_of_first_eq hs₁ ht h
      exact .inr ⟨s₂, e, by rw [← hrest]; simp⟩
    · have hsa : c ∉ s ++ a := by rw [List.mem_append, not_or]; exact ⟨hs, ha⟩
      rw [← List.append_assoc, List.append_assoc _ _ e, List.cons_append] at h
      obtain ⟨hstart, hrest⟩ := eq_of_first_eq hsa ht h
      exact .inl ⟨⟨s, hstart⟩, ⟨e, hrest⟩⟩
  · rintro (⟨⟨s, rfl⟩, ⟨e, rfl⟩⟩ | h)
    · exact ⟨s, e, by simp⟩
    · exact h.trans ((List.suffix_cons c r).trans (List.suffix_append t _)).isInfix

/-- A text with one separator stands in joined pieces just where one piece ends with what is before
the separator and the next one starts with what is behind it. -/
theorem infix_join_iff (ha : c ∉ a) (hb : c ∉ b) {ts : List Text} (hts : ∀ t ∈ ts, c ∉ t) :
    a ++ c :: b <:+: join [c] ts ↔ ∃ p ∈ ts.zip ts.tail, a <:+ p.1 ∧ b <+: p.2 := by
  have hsep : c ∈ a ++ c :: b := List.mem_append_right a List.mem_cons_self
  induction ts with
  | nil =>
    constructor
    · intro h
      exact absurd (h.subset hsep) List.not_mem_nil
    · rintro ⟨p, hp, -⟩
      exact absurd hp List.not_mem_nil
  | cons t ts ih =>
    obtain ⟨ht, hrest⟩ := List.forall_mem_cons.mp hts
    cases ts with
    | nil =>
      constructor
      · intro h
        exact absurd (h.subset hsep) ht
      · rintro ⟨p, hp, -⟩
        exact absurd hp List.not_mem_nil
    | cons u us =>
      rw [join_cons_cons, List.append_assoc, List.singleton_append, infix_across_iff ha ht,
        prefix_join_iff hb]
      apply (or_congr_right (ih hrest)).trans
      simp only [List.tail_cons, List.zip_cons_cons, List.mem_cons, exists_eq_or_imp]

end Text

namespace Analysis

open Source

/-- The components of the dotted name of what a node calls. -/
def calledComponents : Node → List Text
  | .call _ function _ _ => Text.split (calledPath function) ['.']
  | _ => []

/-- A dotted name, given by its components, speaks of a hash. -/
def SpeaksOf (names : List Text) (hash : Text) : Prop :=
  ∃ p ∈ names.zip names.tail,
    ("hashlib".toList <:+ p.1 ∧ hash <+: p.2) ∨ hash ++ ['('] <+: p.2

instance (names : List Text) (hash : Text) : Decidable (SpeaksOf names hash) :=
  inferInstanceAs (Decidable (∃ p ∈ names.zip names.tail,
    ("hashlib".toList <:+ p.1 ∧ hash <+: p.2) ∨ hash ++ ['('] <+: p.2))

/-- The hash that an issue is about. -/
def toldHash? (i : Issue) : Option Text :=
  (Entries.get? i.metadata "algorithm").bind Value.text?

/-! ## The search for a hash -/

variable {hash : Text}

/-- The search for parts of a dotted name looks at its components. -/
theorem speaksOf_iff (h : '.' ∉ hash) (path : Text) :
    (Text.contains path ("hashlib." ++ hash) || Text.contains path ("." ++ hash ++ "(")) = true
      ↔ SpeaksOf (Text.split path ['.']) hash := by
  have hnames := fun t (ht : t ∈ Text.split path ['.']) => Text.not_mem_of_mem_split ht
  have hmodule : path = Text.join ['.'] (Text.split path ['.']) := (Text.join_split '.' path).symm
  have hlib : "hashlib".toList ++ '.' :: hash <:+: path
      ↔ ∃ p ∈ (Text.split path ['.']).zip (Text.split path ['.']).tail,
        "hashlib".toList <:+ p.1 ∧ hash <+: p.2 := by
    conv_lhs => rw [hmodule]
    exact Text.infix_join_iff (by decide) h hnames
  have hopen : [] ++ '.' :: (hash ++ ['(']) <:+: path
      ↔ ∃ p ∈ (Text.split path ['.']).zip (Text.split path ['.']).tail,
        [] <:+ p.1 ∧ hash ++ ['('] <+: p.2 := by
    conv_lhs => rw [hmodule]
    exact Text.infix_join_iff List.not_mem_nil (by simp [h]) hnames
  rw [Bool.or_eq_true, Text.contains_iff_isInfix, Text.contains_iff_isInfix, SpeaksOf]
  change "hashlib".toList ++ '.' :: hash <:+: path ∨ [] ++ '.' :: (hash ++ ['(']) <:+: path ↔ _
  rw [hlib, hopen]
  simp only [List.nil_suffix, true_and, and_or_left, exists_or]

theorem not_dotted_of_mem_weakHashes (h : hash ∈ weakHashes) : '.' ∉ hash := by
  revert hash
  decide

/-- What is found first in some order of a list is any member that passes the test. -/
theorem forall_perm_find?_iff {l : List Text} {p : Text → Bool} {P : Text → Prop} :
    (∀ order : List Text, order.Perm l → ∀ a, order.find? p = some a → P a)
      ↔ ∀ a ∈ l, p a = true → P a := by
  constructor
  · intro h a ha hpass
    -- The order in which the member comes first.
    apply h (a :: l.erase a) (List.perm_cons_erase ha).symm a
    rw [List.find?_cons_of_pos hpass]
  · intro h order hperm a hfound
    exact h a (hperm.mem_iff.mp (List.mem_of_find?_eq_some hfound)) (List.find?_some hfound)

/-- A node that calls nothing has no dotted name. -/
theorem calledComponents_eq_nil {node : Node}
    (h : ∀ span function args keywords, node = .call span function args keywords → False) :
    calledComponents node = [] := by
  unfold calledComponents
  split
  · exact (h _ _ _ _ rfl).elim
  · rfl

theorem not_speaksOf_nil (hash : Text) : ¬SpeaksOf [] hash := by
  rintro ⟨p, hp, -⟩
  exact absurd hp List.not_mem_nil

section

variable {order : List Text} (horder : order.Perm weakHashes) (subject : Subject) (node : Node)
include horder

/-- A node has one issue, about the first hash that its dotted name speaks of, or none. -/
theorem toldHashes_eq : (hashIssuesIn order subject node).map toldHash?
    = ((order.find? fun h => SpeaksOf (calledComponents node) h).map some).toList := by
  unfold hashIssuesIn
  split
  · rename_i span function args keywords
    have hfirst : spokenHash? order (calledPath function)
        = order.find? fun h => SpeaksOf (Text.split (calledPath function) ['.']) h := by
      apply List.find?_congr
      intro h hh
      rw [Bool.eq_iff_iff, decide_eq_true_iff]
      exact speaksOf_iff (not_dotted_of_mem_weakHashes (horder.mem_iff.mp hh)) _
    rw [hfirst, calledComponents]
    cases order.find? fun h => SpeaksOf (Text.split (calledPath function) ['.']) h with
    | none => rfl
    | some h => rfl
  · rename_i hcalls
    have hnone : (order.find? fun h => SpeaksOf (calledComponents node) h) = none := by
      rw [calledComponents_eq_nil hcalls, List.find?_eq_none]
      intro h hh
      rw [decide_eq_true_iff]
      exact not_speaksOf_nil h
    rw [hnone]
    rfl

omit subject in
theorem spoken_of_found
    (h : (order.find? fun h => SpeaksOf (calledComponents node) h) = some hash) :
    hash ∈ weakHashes ∧ SpeaksOf (calledComponents node) hash := by
  have hspoken := List.find?_some h
  rw [decide_eq_true_iff] at hspoken
  exact ⟨horder.mem_iff.mp (List.mem_of_find?_eq_some h), hspoken⟩

theorem told_of_mem {i : Issue} (h : i ∈ hashIssuesIn order subject node) :
    ∃ hash, (order.find? fun h => SpeaksOf (calledComponents node) h) = some hash
      ∧ toldHash? i = some hash := by
  have htold := List.mem_map_of_mem (f := toldHash?) h
  rw [toldHashes_eq horder, Option.mem_toList, Option.map_eq_some_iff] at htold
  obtain ⟨hash, hfound, heq⟩ := htold
  exact ⟨hash, hfound, heq.symm⟩

theorem exists_mem_of_found
    (h : (order.find? fun h => SpeaksOf (calledComponents node) h) = some hash) :
    ∃ i ∈ hashIssuesIn order subject node, toldHash? i = some hash := by
  have htold := toldHashes_eq horder subject node
  rw [h] at htold
  rw [← List.mem_map, htold]
  exact List.mem_singleton_self _

/-- A node is reported just if its dotted name speaks of a weak hash. -/
theorem hashIssuesIn_ne_nil_iff : hashIssuesIn order subject node ≠ []
    ↔ ∃ hash ∈ weakHashes, SpeaksOf (calledComponents node) hash := by
  constructor
  · intro hne
    obtain ⟨i, hi⟩ := List.exists_mem_of_ne_nil _ hne
    obtain ⟨hash, hfound, -⟩ := told_of_mem horder subject node hi
    exact ⟨hash, spoken_of_found horder node hfound⟩
  · rintro ⟨hash, hweak, hspoken⟩
    have hsome : (order.find? fun h => SpeaksOf (calledComponents node) h).isSome = true := by
      rw [List.find?_isSome]
      exact ⟨hash, horder.mem_iff.mpr hweak, decide_eq_true hspoken⟩
    obtain ⟨first, hfirst⟩ := Option.isSome_iff_exists.mp hsome
    obtain ⟨i, hi, -⟩ := exists_mem_of_found horder subject node hfirst
    exact List.ne_nil_of_mem hi

/-- A name that speaks of one weak hash only is reported for that one. -/
theorem told_of_only (hweak : hash ∈ weakHashes)
    (honly : ∀ h ∈ weakHashes, SpeaksOf (calledComponents node) h ↔ h = hash) :
    (hashIssuesIn order subject node).map toldHash? = [some hash] := by
  obtain ⟨i, hi⟩ := List.exists_mem_of_ne_nil _
    ((hashIssuesIn_ne_nil_iff horder subject node).mpr ⟨hash, hweak, (honly hash hweak).mpr rfl⟩)
  obtain ⟨first, hfirst, -⟩ := told_of_mem horder subject node hi
  obtain ⟨hmem, hspoken⟩ := spoken_of_found horder node hfirst
  rw [toldHashes_eq horder, hfirst, (honly first hmem).mp hspoken]
  rfl

end

/-- A hash of the module that has `sha` at the start of its name speaks of `sha` only, unless it
starts with `sha1`. -/
theorem speaksOf_sha_only {name : Text} (hstart : "sha".toList <+: name)
    (hother : ¬"sha1".toList <+: name) :
    ∀ h ∈ weakHashes, SpeaksOf ["hashlib".toList, name] h ↔ h = "sha".toList := by
  obtain ⟨rest, rfl⟩ := hstart
  have hspeaks : ∀ h, SpeaksOf ["hashlib".toList, "sha".toList ++ rest] h
      ↔ h <+: "sha".toList ++ rest := by
    intro h
    have hopen : h ++ ['('] <+: "sha".toList ++ rest → h <+: "sha".toList ++ rest :=
      (List.prefix_append h _).trans
    simp only [SpeaksOf, List.tail_cons, List.zip_cons_cons, List.zip_nil_right,
      List.mem_singleton, exists_eq_left, List.suffix_rfl, true_and]
    exact or_iff_left_of_imp hopen
  intro h hh
  rw [hspeaks]
  simp only [weakHashes, List.mem_cons, List.not_mem_nil, or_false] at hh
  rcases hh with rfl | rfl | rfl
  · constructor
    · intro hmd
      exact absurd (List.cons_prefix_cons.mp hmd).1 (by decide)
    · intro heq
      exact absurd heq (by decide)
  · exact iff_of_false hother (by decide)
  · exact iff_of_true (List.prefix_append _ rest) rfl

/-- A call is reported just if its dotted name speaks of a weak hash. What is told is, in every
order of the search, the last component of the name just if no other weak hash is spoken of. The
hashes of the module whose names start with `sha`, but not with `sha1`, are always reported. -/
theorem weak_hashes_told (subject : Subject) (tree : Node) :
    ((∀ order : List Text, order.Perm weakHashes → ∀ node ∈ tree.walk,
        ∀ i ∈ hashIssuesIn order subject node, ∃ hash ∈ weakHashes,
          (calledComponents node).getLast? = some hash ∧ toldHash? i = some hash)
      ↔ ∀ node ∈ tree.walk, ∀ hash ∈ weakHashes, SpeaksOf (calledComponents node) hash →
          (calledComponents node).getLast? = some hash)
    ∧ ∀ order : List Text, order.Perm weakHashes → ∀ node ∈ tree.walk,
        (hashIssuesIn order subject node ≠ []
          ↔ ∃ hash ∈ weakHashes, SpeaksOf (calledComponents node) hash)
        ∧ ∀ name, calledComponents node = ["hashlib".toList, name] → "sha".toList <+: name →
          ¬"sha1".toList <+: name →
            (hashIssuesIn order subject node).map toldHash? = [some "sha".toList] := by
  refine ⟨?_, fun order horder node hnode => ⟨hashIssuesIn_ne_nil_iff horder subject node, ?_⟩⟩
  · constructor
    · intro h node hnode hash hweak hspoken
      have hall := forall_perm_find?_iff (l := weakHashes)
        (p := fun h => SpeaksOf (calledComponents node) h)
        (P := fun hash => (calledComponents node).getLast? = some hash)
      apply hall.mp _ hash hweak (decide_eq_true hspoken)
      intro order horder first hfirst
      obtain ⟨i, hi, htold⟩ := exists_mem_of_found horder subject node hfirst
      obtain ⟨last, -, hlast, hsame⟩ := h order horder node hnode i hi
      rw [hlast, ← hsame, htold]
    · intro h order horder node hnode i hi
      obtain ⟨hash, hfound, htold⟩ := told_of_mem horder subject node hi
      obtain ⟨hweak, hspoken⟩ := spoken_of_found horder node hfound
      exact ⟨hash, hweak, h node hnode hash hweak hspoken, htold⟩
  · intro name hname hstart hother
    apply told_of_only horder subject node (by decide)
    rw [hname]
    exact speaksOf_sha_only hstart hother

/-- Calls of `hashlib.md5`, with a call of `update` on its result, and of `my.hashlib.sha`. -/
def weaklyHashing : Node :=
  let place : Span := { line := 1, col := 0, endLine := 1 }
  let word (id : Text) : Node := .name place id .load
  let member (value : Node) (id : Text) : Node := .attr place value id .load
  let call (function : Node) : Node := .call place function [word "x"] []
  .module
    [.exprStmt place (call (member (call (member (word "hashlib") "md5")) "update")),
      .exprStmt place (call (member (member (word "my") "hashlib") "sha"))]

theorem weak_hashes_told_weaklyHashing :
    (∀ order : List Text, order.Perm weakHashes → ∀ node ∈ weaklyHashing.walk,
        ∀ i ∈ hashIssuesIn order ⟨"a.py", []⟩ node, ∃ hash ∈ weakHashes,
          (calledComponents node).getLast? = some hash ∧ toldHash? i = some hash)
      ∧ (weaklyHashing.walk.flatMap (hashIssues ⟨"a.py", []⟩)).map toldHash?
        = [some "sha".toList, some "md5".toList] := by
  have hlast : (weaklyHashing.walk.all fun node => weakHashes.all fun hash =>
      !decide (SpeaksOf (calledComponents node) hash)
        || (calledComponents node).getLast? == some hash) = true := by
    decide +kernel
  refine ⟨(weak_hashes_told _ weaklyHashing).1.mpr fun node hnode hash hweak hspoken => ?_,
    by decide +kernel⟩
  have hone := List.all_eq_true.mp (List.all_eq_true.mp hlast node hnode) hash hweak
  rw [decide_eq_true hspoken, Bool.not_true, Bool.false_or, beq_iff_eq] at hone
  exact hone

/-- A hash that is recommended is reported as weak, and which hash a call of `hashlib.sha1` is
reported for depends on the order of the search. -/
theorem strong_hash_reported :
    (treeOf "hashlib.sha256()").map (fun tree =>
        (tree.walk.flatMap (hashIssues ⟨"a.py", "hashlib.sha256()"⟩)).map toldHash?)
        = some [some "sha".toList]
      ∧ ["sha".toList, "md5".toList, "sha1".toList].Perm weakHashes
      ∧ (treeOf "hashlib.sha1()").map (fun tree =>
        (tree.walk.flatMap (hashIssuesIn ["sha", "md5", "sha1"] ⟨"a.py", "hashlib.sha1()"⟩)).map
          toldHash?) = some [some "sha".toList] := by
  refine ⟨?_, ?_, ?_⟩
  · decide +kernel
  · decide
  · decide +kernel

end Analysis

end CodeReview
