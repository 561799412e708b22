import CodeReview.Analysis.Complexity
import CodeReview.Proofs.Walking
import CodeReview.Source.Form
import Mathlib.Algebra.BigOperators.Ring.Finset
import Mathlib.Algebra.Order.BigOperators.Group.List
import Mathlib.Algebra.Order.Ring.Nat

/-!
# Cyclomatic complexity

The complexity of a function counts the decisions on a walk over its tree. It is one more than a
sum by recursion over the tree, so it is at least one, and no part of a function is more complex
than the whole.

Reviews and the analyzer count with different rules: the analyzer takes an assertion for a decision,
a review does not. What they say about a source differs by the assertions in its functions and by
nothing else.
-/

namespace CodeReview.Analysis

open Source

theorem foldl_add_eq_sum {α : Type} (f : α → Nat) (as : List α) (start : Nat) :
    as.foldl (fun count a => count + f a) start = start + (as.map f).sum := by
  induction as generalizing start with
  | nil => rfl
  | cons a as ih => rw [List.foldl_cons, ih, List.map_cons, List.sum_cons, Nat.add_assoc]

theorem cyclomatic_eq_sum (assertions : Bool) (n : Node) :
    cyclomatic assertions n = 1 + (n.preorder.map (decisions assertions)).sum := by
  rw [cyclomatic, foldl_add_eq_sum, Node.sum_walk, Node.sum_preorder]

theorem one_le_cyclomatic (assertions : Bool) (n : Node) : 1 ≤ cyclomatic assertions n := by
  rw [cyclomatic_eq_sum]
  omega

/-- No part of a tree is more complex than the whole. -/
theorem cyclomatic_le {n m : Node} (h : Relation.ReflTransGen Node.HasChild n m)
    (assertions : Bool) : cyclomatic assertions m ≤ cyclomatic assertions n := by
  have hsub := (Node.preorder_sublist h).map (decisions assertions)
  have hsum := hsub.sum_le_sum (by simp)
  rw [cyclomatic_eq_sum, cyclomatic_eq_sum]
  omega

/-! ## By recursion over the tree -/

/-- The forms that are one decision each. -/
def branching : List Text :=
  ["If", "IfExp", "For", "AsyncFor", "While", "ExceptHandler", "With", "AsyncWith", "Assert"]

/-- The decisions of a form: a junction has one between any two operands that stand side by side,
and a clause of a comprehension one for each condition. -/
def weight (n : Node) : Int :=
  match n with
  | .boolOp _ _ values => values.length - 1
  | .clause _ _ _ conditions => conditions.length
  | n => (branching.contains n.form.name).toNat

/-- The junctions in a tree join two operands or more. -/
def Joined (n : Node) : Prop :=
  ∀ span op values, Relation.ReflTransGen Node.HasChild n (.boolOp span op values) →
    2 ≤ values.length

/-- The decisions that are counted are those of the form. -/
theorem decisions_eq_weight {n : Node}
    (h : ∀ span op values, n = .boolOp span op values → 2 ≤ values.length) :
    (decisions true n : Int) = weight n := by
  cases n with
  | boolOp span op values =>
    have hvalues := h span op values rfl
    change ((values.length - 1 : Nat) : Int) = values.length - 1
    omega
  | clause => rfl
  -- Forms that share a constructor have different names.
  | functionDef _ flag | forStmt _ flag | withStmt _ flag | tryStmt _ flag | scopeStmt _ flag
  | comprehension _ flag =>
    delta decisions weight Node.form
    cases flag <;> dsimp only <;> decide +kernel
  | _ =>
    delta decisions weight Node.form
    dsimp only
    decide +kernel

theorem cyclomatic_eq_weights {n : Node} (h : Joined n) :
    (cyclomatic true n : Int) = 1 + n.total weight := by
  have hweights : n.preorder.map (fun m => (decisions true m : Int)) = n.preorder.map weight := by
    apply List.map_congr_left
    intro m hm
    apply decisions_eq_weight
    rintro span op values rfl
    exact h span op values (Node.mem_preorder_iff.mp hm)
  rw [cyclomatic_eq_sum, Nat.cast_add, Nat.cast_list_sum, List.map_map, ← Node.sum_preorder,
    ← hweights]
  rfl

/-- Counted by a queue, the complexity of a function is one more than its decisions by recursion
over its tree. So it is at least one, and at least that of whatever stands in it. -/
theorem cyclomatic_eq_total {n : Node} (h : Joined n) :
    cyclomatic true n = (Node.visit [n]).foldl (fun count m => count + decisions true m) 1
      ∧ (cyclomatic true n : Int) = 1 + n.total weight
      ∧ 1 ≤ cyclomatic true n
      ∧ ∀ m, Relation.TransGen Node.HasChild n m → cyclomatic true m ≤ cyclomatic true n := by
  refine ⟨?_, cyclomatic_eq_weights h, one_le_cyclomatic true n, ?_⟩
  · rw [← Node.walk_eq_visit, cyclomatic]
  · intro m hm
    exact cyclomatic_le hm.to_reflTransGen true

/-- A function with a junction of three operands, and with a function of its own that has a loop
and an assertion. -/
def guarded : Node :=
  let place : Span := { line := 1, col := 0, endLine := 1 }
  let word (id : Text) : Node := .name place id .load
  let named (name : Text) (body : List Node) : Node :=
    .functionDef place false name (.parameters [] [] none [] [] none []) body [] none
  named "f"
    [.ifStmt place (.boolOp place .and [word "a", word "b", word "c"])
      [named "g" [.forStmt place true (word "x") (word "a") [.assertStmt place (word "x") none] []]]
      []]

theorem guarded_joined : Joined guarded := by
  have hjunction : ∀ span op values, .boolOp span op values ∈ guarded.preorder →
      values.length = 3 := by
    simp +contextual [guarded, Node.preorder_eq, Node.children]
  intro span op values hvalues
  have := hjunction span op values (Node.mem_preorder_iff.mpr hvalues)
  omega

theorem cyclomatic_eq_total_guarded :
    Joined guarded ∧ cyclomatic true guarded = 6
      ∧ (cyclomatic true guarded : Int) = 1 + guarded.total weight
      ∧ ∀ m, Relation.TransGen Node.HasChild guarded m →
        cyclomatic true m ≤ cyclomatic true guarded := by
  obtain ⟨_, htotal, _, hparts⟩ := cyclomatic_eq_total guarded_joined
  exact ⟨guarded_joined, by decide +kernel, htotal, hparts⟩

/-! ## Reviews and the analyzer -/

def isAssertion : Node → Bool
  | .assertStmt .. => true
  | _ => false

/-- The number of assertions in a tree. -/
def assertionsIn (n : Node) : Nat :=
  n.total fun m => if isAssertion m then 1 else 0

theorem decisions_true (n : Node) :
    decisions true n = decisions false n + if isAssertion n then 1 else 0 := by
  cases n <;> rfl

/-- The analyzer counts the assertions on top of what a review counts. -/
theorem cyclomatic_true (n : Node) :
    cyclomatic true n = cyclomatic false n + assertionsIn n := by
  rw [cyclomatic_eq_sum, cyclomatic_eq_sum, funext decisions_true, List.sum_map_add, assertionsIn,
    Node.sum_preorder, Node.sum_preorder, Nat.add_assoc]

/-- The functions in a tree, in the order of a walk. -/
def functionNodes (tree : Node) : List Node :=
  tree.walk.filter fun n => n.functionName?.isSome

theorem complexities_eq_map (assertions : Bool) (tree : Node) :
    complexities assertions tree = (functionNodes tree).map (cyclomatic assertions) := by
  rw [complexities, functionNodes]
  induction tree.walk with
  | nil => rfl
  | cons n nodes ih =>
    cases hname : n.functionName? with
    | none => simp [hname, ih]
    | some name => simp [hname, ih]

section

variable (assertions : Bool) (source : Text) (tree : Node)

theorem functions_measure :
    (measure assertions source (some tree)).functions = .int (functionNodes tree).length := by
  change Number.int (complexities assertions tree).length = _
  rw [complexities_eq_map, List.length_map]

theorem avgComplexity_measure :
    (measure assertions source (some tree)).avgComplexity
      = average ((functionNodes tree).map (cyclomatic assertions)) := by
  change average (complexities assertions tree) = _
  rw [complexities_eq_map]

theorem maxComplexity_measure :
    (measure assertions source (some tree)).maxComplexity
      = .int (((functionNodes tree).map (cyclomatic assertions)).foldl max 0 : Nat) := by
  change Number.int ((complexities assertions tree).foldl max 0 : Nat) = _
  rw [complexities_eq_map]

end

/-- Raising members of a list keeps their maximum just if each is raised to at most a member. -/
theorem foldl_max_raised_iff {α : Type} {as : List α} {f g : α → Nat} (h : ∀ a ∈ as, f a ≤ g a) :
    (as.map g).foldl max 0 = (as.map f).foldl max 0 ↔ ∀ a ∈ as, ∃ b ∈ as, g a ≤ f b := by
  have hle : ∀ u : α → Nat, ∀ a ∈ as, u a ≤ (as.map u).foldl max 0 := fun u a ha =>
    (foldl_max_le_iff.mp (Nat.le_refl _)).2 _ (List.mem_map_of_mem ha)
  constructor
  · intro hmax a ha
    by_contra hnone
    simp only [not_exists, not_and, Nat.not_le] at hnone
    -- Then all members are below what this one is raised to, and so is their maximum.
    have hlow : (as.map f).foldl max 0 ≤ g a - 1 := by
      rw [foldl_max_le_iff, List.forall_mem_map]
      refine ⟨Nat.zero_le _, fun b hb => ?_⟩
      have := hnone b hb
      omega
    have := hle g a ha
    have := hnone a ha
    omega
  · intro hraised
    apply Nat.le_antisymm
    · rw [foldl_max_le_iff, List.forall_mem_map]
      refine ⟨Nat.zero_le _, fun a ha => ?_⟩
      obtain ⟨b, hb, hab⟩ := hraised a ha
      exact hab.trans (hle f b hb)
    · rw [foldl_max_le_iff, List.forall_mem_map]
      exact ⟨Nat.zero_le _, fun a ha => (h a ha).trans (hle g a ha)⟩

/-- A part of an overview is a number. -/
def Shows (v : Value) (name : Text) (n : Number) : Prop :=
  v.field? name = some (.number n)

/-- What an overview says about functions and classes is what metrics say about them. -/
structure Agrees (v : Value) (m : Metrics) : Prop where
  functions : Shows v "functions" m.functions
  classes : Shows v "classes" m.classes
  average : Shows v "avg_complexity" m.avgComplexity
  maximum : Shows v "max_complexity" m.maxComplexity

theorem overview_agrees {source : Text} {tree : Node} (h : treeOf source = some tree) :
    Agrees (overview source) (measure true source (some tree)) := by
  constructor <;> simp [Shows, overview, h, Value.field?, Value.record, Entries.get?]

theorem Shows.congr {v : Value} {name : Text} {n : Number} (h : Shows v name n) (m : Number) :
    Shows v name m ↔ n = m := by
  rw [Shows, h, Option.some.injEq, Value.number.injEq]

section

variable {source : Text} {tree : Node}

theorem maxComplexity_agrees_iff (h : treeOf source = some tree) :
    Shows (overview source) "max_complexity" (measure false source (some tree)).maxComplexity
      ↔ ∀ f ∈ functionNodes tree, ∃ g ∈ functionNodes tree,
        cyclomatic false f + assertionsIn f ≤ cyclomatic false g := by
  have hmaximum := (overview_agrees h).maximum
  rw [maxComplexity_measure, funext cyclomatic_true] at hmaximum
  rw [hmaximum.congr, maxComplexity_measure, Number.int.injEq, Nat.cast_inj]
  exact foldl_max_raised_iff fun f _ => Nat.le_add_right _ _

theorem avgComplexity_agrees_iff (h : treeOf source = some tree) :
    Shows (overview source) "avg_complexity" (measure false source (some tree)).avgComplexity
      ↔ average ((functionNodes tree).map fun f => cyclomatic false f + assertionsIn f)
        = average ((functionNodes tree).map (cyclomatic false)) := by
  have haverage := (overview_agrees h).average
  rw [avgComplexity_measure, funext cyclomatic_true] at haverage
  rw [haverage.congr, avgComplexity_measure]

/-- An overview and a review of the same source have the same functions and classes. The worst
complexity is the same just if no function is past all others by its assertions, and the average
complexity just if adding the assertions makes no difference to it after rounding. Without
assertions in functions all is the same. -/
theorem overview_agrees_iff (h : treeOf source = some tree) :
    Shows (overview source) "functions" (measure false source (some tree)).functions
      ∧ Shows (overview source) "classes" (measure false source (some tree)).classes
      ∧ (Shows (overview source) "max_complexity" (measure false source (some tree)).maxComplexity
        ↔ ∀ f ∈ functionNodes tree, ∃ g ∈ functionNodes tree,
          cyclomatic false f + assertionsIn f ≤ cyclomatic false g)
      ∧ (Shows (overview source) "avg_complexity" (measure false source (some tree)).avgComplexity
        ↔ average ((functionNodes tree).map fun f => cyclomatic false f + assertionsIn f)
          = average ((functionNodes tree).map (cyclomatic false)))
      ∧ ((∀ f ∈ functionNodes tree, assertionsIn f = 0) →
        Agrees (overview source) (measure false source (some tree))) := by
  have hfunctions : Shows (overview source) "functions"
      (measure false source (some tree)).functions := by
    have hcount := (overview_agrees h).functions
    rw [functions_measure] at hcount ⊢
    exact hcount
  have hclasses : Shows (overview source) "classes" (measure false source (some tree)).classes :=
    (overview_agrees h).classes
  refine ⟨hfunctions, hclasses, maxComplexity_agrees_iff h, avgComplexity_agrees_iff h,
    fun hnone => ⟨hfunctions, hclasses, ?_, ?_⟩⟩
  · rw [avgComplexity_agrees_iff h]
    apply congrArg average
    apply List.map_congr_left
    intro f hf
    rw [hnone f hf, Nat.add_zero]
  · rw [maxComplexity_agrees_iff h]
    intro f hf
    exact ⟨f, hf, by rw [hnone f hf, Nat.add_zero]⟩

end

/-- An assertion that stands in no function. -/
def mixed : Text :=
  "assert x\ndef f(a): return 1 if a else 0"

theorem overview_agrees_iff_mixed :
    ∃ tree, treeOf mixed = some tree ∧ (∀ f ∈ functionNodes tree, assertionsIn f = 0)
      ∧ Agrees (overview mixed) (measure false mixed (some tree)) := by
  have hnone : ((treeOf mixed).any fun tree =>
      (functionNodes tree).all fun f => assertionsIn f = 0) = true := by
    decide +kernel
  obtain ⟨hsome, hall⟩ := (Option.any_eq_true_iff_get _ _).mp hnone
  have htree : treeOf mixed = some ((treeOf mixed).get hsome) := (Option.some_get hsome).symm
  have hfunctions : ∀ f ∈ functionNodes ((treeOf mixed).get hsome), assertionsIn f = 0 := by
    intro f hf
    exact of_decide_eq_true (List.all_eq_true.mp hall f hf)
  exact ⟨_, htree, hfunctions, (overview_agrees_iff htree).2.2.2.2 hfunctions⟩

/-- An assertion in a function. -/
def asserting : Text :=
  "def f(x): assert x"

/-- The analyzer counts two where a review counts one. -/
theorem overview_differs :
    (treeOf asserting).isSome = true
      ∧ ¬ Agrees (overview asserting) (measure false asserting (treeOf asserting)) := by
  have hfacts : (treeOf asserting).isSome = true
      ∧ ((overview asserting).field? "max_complexity").bind Value.int? = some 2
      ∧ (Value.number (measure false asserting (treeOf asserting)).maxComplexity).int?
        = some 1 := by
    decide +kernel
  obtain ⟨hsome, hshown, hcounted⟩ := hfacts
  refine ⟨hsome, fun h => ?_⟩
  rw [h.maximum, Option.bind_some, hcounted] at hshown
  exact absurd hshown (by decide)

end CodeReview.Analysis
