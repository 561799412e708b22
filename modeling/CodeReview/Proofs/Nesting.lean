import CodeReview.Proofs.Cyclomatic
import CodeReview.Rules.Standard
import Mathlib.Order.Bounds.Defs

/-!
# Nesting

How deep code is nested is found by going down a tree and keeping the greatest depth so far. It is
the greatest number of nodes that open a level on a way down, whichever nodes these are
(`depth_isGreatest`). The analyzer and the rule about nesting go down in the same way and differ in
what opens a level for them, so the rule never finds more, and finds as much wherever the forms that
it does not know are missing.

An `elif` stands in the tree under the `else` of the branch before it, so each of them is a level
of its own.
-/

namespace CodeReview.Analysis

open Source

/-! ## By recursion over the tree -/

/-- What every member and the start have in them can be taken out of a maximum. -/
theorem foldl_max_add {α : Type} (common : Nat) (f : α → Nat) (as : List α) (start : Nat) :
    (as.map fun a => common + f a).foldl max (common + start)
      = common + (as.map f).foldl max start := by
  induction as generalizing start with
  | nil => rfl
  | cons a as ih =>
    rw [List.map_cons, List.map_cons, List.foldl_cons, List.foldl_cons, Nat.add_max_add_left, ih]

variable {n : Node}

section

variable (opens : Node → Bool)

/-- The levels of a node and of what is below it. -/
def levelsIn (n : Node) : Nat :=
  (if opens n then 1 else 0) + depth opens n

theorem depth_eq (n : Node) : depth opens n = (n.children.map (levelsIn opens)).foldl max 0 := by
  rw [depth, List.map_subtype (g := levelsIn opens) fun _ _ => rfl, List.unattach_attach]

variable {opens}

theorem depth_le_iff {most : Nat} :
    depth opens n ≤ most ↔ ∀ c ∈ n.children, levelsIn opens c ≤ most := by
  rw [depth_eq, foldl_max_le_iff, List.forall_mem_map]
  exact and_iff_right (Nat.zero_le _)

theorem levelsIn_le_depth {n c : Node} (h : c ∈ n.children) : levelsIn opens c ≤ depth opens n :=
  depth_le_iff.mp (Nat.le_refl _) c h

/-- Some child has as many levels as a node has below it. -/
theorem exists_levelsIn_eq_depth (h : n.children ≠ []) :
    ∃ c ∈ n.children, levelsIn opens c = depth opens n := by
  by_contra hnone
  simp only [not_exists, not_and] at hnone
  have hlow : depth opens n ≤ depth opens n - 1 := by
    rw [depth_le_iff]
    intro c hc
    have hle : levelsIn opens c ≤ depth opens n := levelsIn_le_depth hc
    have hne := hnone c hc
    omega
  -- So there are no levels at all, and then any child will do.
  obtain ⟨c, hc⟩ := List.exists_mem_of_ne_nil _ h
  have hle : levelsIn opens c ≤ depth opens n := levelsIn_le_depth hc
  have hne := hnone c hc
  omega

/-- What opens no fewer levels below a node makes it no less deep. -/
theorem depth_mono {opens' : Node → Bool}
    (h : ∀ m, Relation.TransGen Node.HasChild n m → opens m = true → opens' m = true) :
    depth opens n ≤ depth opens' n := by
  induction n using Node.children_induction with
  | step n ih =>
    rw [depth_le_iff]
    intro c hc
    have hbelow := ih c hc fun m hm => h m (.head hc hm)
    have hself := h c (.single hc)
    refine Nat.le_trans ?_ (levelsIn_le_depth hc)
    unfold levelsIn
    split
    · next hopens =>
      rw [if_pos (hself hopens)]
      omega
    · omega

/-- The depth by going down with the number of levels so far. -/
def depthFrom (opens : Node → Bool) (current : Nat) (n : Node) : Nat :=
  n.children.attach.foldl
    (fun most c => max most (depthFrom opens (if opens c.1 then current + 1 else current) c.1))
    current
termination_by sizeOf n
decreasing_by exact Node.sizeOf_lt_of_mem_children c.2

theorem depthFrom_eq_foldl (current : Nat) (n : Node) :
    depthFrom opens current n
      = (n.children.map fun c =>
          depthFrom opens (if opens c then current + 1 else current) c).foldl max current := by
  rw [depthFrom, List.foldl_map, List.foldl_subtype (g := fun most c =>
    max most (depthFrom opens (if opens c then current + 1 else current) c)) fun _ _ _ => rfl,
    List.unattach_attach]

/-- The levels so far are added to the depth of what is below. -/
theorem depthFrom_eq (current : Nat) (n : Node) :
    depthFrom opens current n = current + depth opens n := by
  induction n using Node.children_induction generalizing current with
  | step n ih =>
    have hchildren : (n.children.map fun c =>
        depthFrom opens (if opens c then current + 1 else current) c)
        = n.children.map fun c => current + levelsIn opens c := by
      apply List.map_congr_left
      intro c hc
      rw [ih c hc, levelsIn]
      split <;> omega
    rw [depthFrom_eq_foldl, hchildren, depth_eq]
    exact foldl_max_add current (levelsIn opens) n.children 0

/-! ## By ways down -/

/-- The nodes on a way down from a node to one below it, without the node itself. -/
structure LeadsDown (n : Node) (way : List Node) : Prop where
  proper : way ≠ []
  chain : List.IsChain Node.HasChild (n :: way)

theorem countP_le_depth {way : List Node}
    (h : List.IsChain Node.HasChild (n :: way)) : way.countP opens ≤ depth opens n := by
  induction way generalizing n with
  | nil => exact Nat.zero_le _
  | cons c way ih =>
    obtain ⟨hc, hway⟩ := List.isChain_cons_cons.mp h
    have hbelow := ih hway
    refine Nat.le_trans ?_ (levelsIn_le_depth hc)
    rw [List.countP_cons, levelsIn]
    omega

/-- There is a way down on which all levels are met. -/
theorem exists_leadsDown (h : n.children ≠ []) :
    ∃ way, LeadsDown n way ∧ way.countP opens = depth opens n := by
  induction n using Node.children_induction with
  | step n ih =>
    obtain ⟨c, hc, hlevels⟩ : ∃ c ∈ n.children, levelsIn opens c = depth opens n :=
      exists_levelsIn_eq_depth h
    rw [← hlevels, levelsIn]
    by_cases hleaf : c.children = []
    · -- The way ends with the child, and there are no levels below it.
      refine ⟨[c], ⟨List.cons_ne_nil _ _, ?_⟩, ?_⟩
      · exact List.isChain_cons_cons.mpr ⟨hc, .singleton c⟩
      · rw [List.countP_cons, List.countP_nil, depth_eq, hleaf]
        exact Nat.add_comm _ _
    · obtain ⟨way, hway, hcount⟩ := ih c hc hleaf
      refine ⟨c :: way, ⟨List.cons_ne_nil _ _, ?_⟩, ?_⟩
      · exact List.isChain_cons_cons.mpr ⟨hc, hway.chain⟩
      · rw [List.countP_cons, hcount]
        exact Nat.add_comm _ _

/-- The depth is the greatest number of levels on a way down. -/
theorem depth_isGreatest (h : n.children ≠ []) :
    IsGreatest {k | ∃ way, LeadsDown n way ∧ way.countP opens = k} (depth opens n) := by
  refine ⟨exists_leadsDown h, ?_⟩
  rintro k ⟨way, hway, rfl⟩
  exact countP_le_depth hway.chain

end

/-! ## The analyzer and the rule -/

/-- The forms that open a level. -/
def levelForms : List Text :=
  ["If", "For", "AsyncFor", "While", "With", "AsyncWith", "Try", "FunctionDef", "AsyncFunctionDef",
    "ClassDef"]

/-- The forms among them that the rule does not know. -/
def unruledForms : List Text :=
  ["AsyncFor", "AsyncWith", "FunctionDef", "AsyncFunctionDef", "ClassDef"]

theorem opensLevel_eq (n : Node) : opensLevel n = levelForms.contains n.form.name := by
  cases n with
  -- Forms that share a constructor have different names.
  | functionDef _ flag | forStmt _ flag | withStmt _ flag | tryStmt _ flag | scopeStmt _ flag
  | comprehension _ flag =>
    delta opensLevel Node.form
    cases flag <;> dsimp only <;> decide +kernel
  | _ =>
    delta opensLevel Node.form
    dsimp only
    decide +kernel

theorem opensLevel_of_rule (h : Rules.opensLevel n = true) : opensLevel n = true := by
  cases n with
  | ifStmt | whileStmt | forStmt | withStmt => rfl
  | tryStmt => exact h
  | _ => cases h

/-- The rule misses a level only at the forms that it does not know. -/
theorem rule_or_unruled (h : opensLevel n = true) :
    Rules.opensLevel n = true ∨ n.form.name ∈ unruledForms := by
  cases n with
  | ifStmt | whileStmt => exact .inl rfl
  | tryStmt => exact .inl h
  | forStmt _ async | withStmt _ async =>
    cases async with
    | false => exact .inl rfl
    | true =>
      right
      delta Node.form
      dsimp only
      decide +kernel
  | functionDef _ async =>
    right
    delta Node.form
    cases async <;> dsimp only <;> decide +kernel
  | classDef =>
    right
    delta Node.form
    dsimp only
    decide +kernel
  | _ => cases h

theorem ruleDepth_le_nesting (n : Node) : depth Rules.opensLevel n ≤ nesting n :=
  depth_mono fun _ _ => opensLevel_of_rule

theorem ruleDepth_eq_nesting
    (h : ∀ m, Relation.TransGen Node.HasChild n m → m.form.name ∉ unruledForms) :
    depth Rules.opensLevel n = nesting n := by
  apply Nat.le_antisymm (ruleDepth_le_nesting n)
  apply depth_mono
  intro m hm hopens
  exact (rule_or_unruled hopens).resolve_right (h m hm)

/-- Found by going down with the levels so far, the nesting of a node is the greatest number of
nodes of the forms that open a level on a way down from it, and zero if there is no way down. The
rule about nesting finds no more, and finds the same where nothing below the node is of a form that
it does not know. -/
theorem nesting_isGreatest (n : Node) :
    nesting n = depthFrom opensLevel 0 n
      ∧ (n.children = [] → nesting n = 0)
      ∧ (n.children ≠ [] →
        IsGreatest {k | ∃ way, LeadsDown n way
          ∧ way.countP (fun m => levelForms.contains m.form.name) = k} (nesting n))
      ∧ depth Rules.opensLevel n ≤ nesting n
      ∧ ((∀ m, Relation.TransGen Node.HasChild n m → m.form.name ∉ unruledForms) →
        depth Rules.opensLevel n = nesting n) := by
  refine ⟨?_, ?_, ?_, ruleDepth_le_nesting n, ruleDepth_eq_nesting⟩
  · rw [depthFrom_eq, Nat.zero_add, nesting]
  · intro hleaf
    rw [nesting, depth_eq, hleaf]
    rfl
  · intro hchildren
    rw [← funext opensLevel_eq]
    exact depth_isGreatest hchildren

theorem transGen_iff {n m : Node} :
    Relation.TransGen Node.HasChild n m ↔ m ∈ n.children.flatMap Node.preorder := by
  rw [Relation.TransGen.head'_iff, List.mem_flatMap]
  simp only [Node.mem_preorder_iff]
  rfl

/-- A function that tries a loop, and then opens something. -/
def retrying : Node :=
  let place : Span := { line := 1, col := 0, endLine := 1 }
  let word (id : Text) : Node := .name place id .load
  .functionDef place true "f" (.parameters [] [] none [] [] none [])
    [.tryStmt place false [.whileStmt place (word "x") [.passStmt place] []]
      [.handler place none none [.passStmt place]] [] [],
      .withStmt place false [.withItem (word "y") none] [.passStmt place]]
    [] none

theorem nesting_isGreatest_retrying :
    retrying.children ≠ []
      ∧ (∀ m, Relation.TransGen Node.HasChild retrying m → m.form.name ∉ unruledForms)
      ∧ IsGreatest {k | ∃ way, LeadsDown retrying way
          ∧ way.countP (fun m => levelForms.contains m.form.name) = k} 2
      ∧ depth Rules.opensLevel retrying = 2 := by
  have hchildren : retrying.children ≠ [] := List.cons_ne_nil _ _
  have hnesting : nesting retrying = 2 := by decide +kernel
  have hruled : ∀ m, Relation.TransGen Node.HasChild retrying m → m.form.name ∉ unruledForms := by
    have hall : ∀ m ∈ retrying.children.flatMap Node.preorder,
        m.form.name ∉ unruledForms := by
      decide +kernel
    exact fun m hm => hall m (transGen_iff.mp hm)
  obtain ⟨_, _, hgreatest, _, hequal⟩ := nesting_isGreatest retrying
  rw [hnesting] at hgreatest hequal
  exact ⟨hchildren, hruled, hgreatest hchildren, hequal hruled⟩

/-! ## Chains of branches -/

/-- Nothing in a tree opens a level. -/
def Flat (n : Node) : Prop :=
  ∀ m, Relation.ReflTransGen Node.HasChild n m → opensLevel m = false

/-- No statement stands in a tree, as in that of any expression. -/
def StatementFree (n : Node) : Prop :=
  ∀ m, Relation.ReflTransGen Node.HasChild n m → m.form.family ≠ "stmt"

theorem flat_iff : Flat n ↔ ∀ m ∈ n.preorder, opensLevel m = false := by
  simp only [Flat, Node.mem_preorder_iff]

theorem statementFree_iff :
    StatementFree n ↔ ∀ m ∈ n.preorder, m.form.family ≠ "stmt" := by
  simp only [StatementFree, Node.mem_preorder_iff]

instance : DecidablePred Flat :=
  fun _ => decidable_of_iff' _ flat_iff

instance : DecidablePred StatementFree :=
  fun _ => decidable_of_iff' _ statementFree_iff

theorem family_of_opensLevel (h : opensLevel n = true) : n.form.family = "stmt" := by
  cases n with
  | ifStmt | forStmt | whileStmt | withStmt | functionDef | classDef | tryStmt => rfl
  | _ => cases h

theorem StatementFree.flat (h : StatementFree n) : Flat n := by
  intro m hm
  rw [Bool.eq_false_iff]
  exact fun hopens => h m hm (family_of_opensLevel hopens)

theorem Flat.levelsIn_eq_zero (h : Flat n) : levelsIn opensLevel n = 0 := by
  induction n using Node.children_induction with
  | step n ih =>
    have hbelow : depth opensLevel n ≤ 0 := by
      rw [depth_le_iff]
      intro c hc
      exact Nat.le_of_eq (ih c hc fun m hm => h m (.head hc hm))
    rw [levelsIn, h n .refl, Nat.le_zero.mp hbelow]
    rfl

/-- If all that is below a node but one child is flat, the levels are those of that child. -/
theorem nesting_eq_levelsIn {n c : Node} (hc : c ∈ n.children)
    (h : ∀ d ∈ n.children, d = c ∨ Flat d) : nesting n = levelsIn opensLevel c := by
  apply Nat.le_antisymm
  · rw [nesting, depth_le_iff]
    intro d hd
    rcases h d hd with rfl | hflat
    · exact Nat.le_refl _
    · rw [hflat.levelsIn_eq_zero]
      exact Nat.zero_le _
  · exact levelsIn_le_depth hc

/-- A condition, and what is done under it: statements that open no level. -/
structure Branch where
  span : Span
  test : Node
  body : List Node
  test_free : StatementFree test
  body_flat : ∀ s ∈ body, Flat s

/-- An `if` with any number of `elif`s and with an `else`, which may be empty. -/
structure Choice where
  first : Branch
  others : List Branch
  otherwise : List Node
  otherwise_flat : ∀ s ∈ otherwise, Flat s

/-- The tree of a first branch, the branches after it and an `else`: the next branch is a statement
of its own, and the only one under the `else` of the first. -/
def Branch.chain (b : Branch) (otherwise : List Node) : List Branch → Node
  | [] => .ifStmt b.span b.test b.body otherwise
  | next :: others => .ifStmt b.span b.test b.body [next.chain otherwise others]

def Choice.toNode (c : Choice) : Node :=
  c.first.chain c.otherwise c.others

/-- In an `if` statement only the `else` can open levels. -/
theorem Branch.flat_or_mem (b : Branch) {orelse : List Node} {d : Node}
    (h : d ∈ (Node.ifStmt b.span b.test b.body orelse).children) : Flat d ∨ d ∈ orelse := by
  simp only [Node.children, List.mem_cons, List.mem_append] at h
  rcases h with rfl | hd | hd
  · exact .inl b.test_free.flat
  · exact .inl (b.body_flat d hd)
  · exact .inr hd

theorem Branch.levelsIn_chain {otherwise : List Node} (h : ∀ s ∈ otherwise, Flat s)
    (others : List Branch) (b : Branch) :
    levelsIn opensLevel (b.chain otherwise others) = others.length + 1 := by
  induction others generalizing b with
  | nil =>
    have hdepth : depth opensLevel (b.chain otherwise []) ≤ 0 := by
      rw [depth_le_iff]
      intro d hd
      have hflat : Flat d := (b.flat_or_mem hd).elim id (h d)
      exact Nat.le_of_eq hflat.levelsIn_eq_zero
    rw [levelsIn, Nat.le_zero.mp hdepth]
    rfl
  | cons next others ih =>
    -- Below the first branch all levels are those of the next one.
    have hdepth : nesting (b.chain otherwise (next :: others)) = others.length + 1 := by
      rw [← ih next]
      apply nesting_eq_levelsIn
      · simp [chain, Node.children]
      · intro d hd
        exact (b.flat_or_mem hd).symm.imp_left List.mem_singleton.mp
    rw [levelsIn, ← nesting, hdepth, List.length_cons]
    exact Nat.add_comm _ _

/-- Each `elif` nests: a function that is nothing but an `if` with `elif`s and an `else` has one
level more than it has `elif`s, and so one level only if there are none. -/
theorem nesting_choice (c : Choice) (span : Span) (async : Bool) (name : Text) {params : Node}
    {decorators : List Node} {returns : Option Node} (hparams : StatementFree params)
    (hdecorators : ∀ d ∈ decorators, StatementFree d) (hreturns : ∀ r ∈ returns, StatementFree r) :
    nesting (.functionDef span async name params [c.toNode] decorators returns)
        = c.others.length + 1
      ∧ (nesting (.functionDef span async name params [c.toNode] decorators returns) = 1
        ↔ c.others = []) := by
  have hnesting : nesting (.functionDef span async name params [c.toNode] decorators returns)
      = c.others.length + 1 := by
    -- Of what is below the function only the choice opens levels.
    rw [nesting_eq_levelsIn (c := c.toNode)]
    · exact c.first.levelsIn_chain c.otherwise_flat c.others
    · simp [Node.children]
    · intro d hd
      simp only [Node.children, List.mem_cons, List.mem_append, List.not_mem_nil, or_false,
        Option.mem_toList] at hd
      rcases hd with rfl | (rfl | hd) | hd
      · exact .inr hparams.flat
      · exact .inl rfl
      · exact .inr (hdecorators d hd).flat
      · exact .inr (hreturns d hd).flat
  rw [hnesting]
  refine ⟨rfl, ?_⟩
  rw [← List.length_eq_zero_iff]
  omega

def anywhere : Span :=
  { line := 1, col := 0, endLine := 1 }

/-- A branch with nothing to do. -/
def idle : Branch where
  span := anywhere
  test := .name anywhere "x" .load
  body := [.passStmt anywhere]
  test_free := by decide +kernel
  body_flat := by decide +kernel

/-- So many `elif`s between an `if` and an `else`. -/
def ways (count : Nat) : Choice where
  first := idle
  others := List.replicate count idle
  otherwise := [.passStmt anywhere]
  otherwise_flat := by decide +kernel

def oneParameter : Node :=
  .parameters [] [.parameter anywhere "x" none] none [] [] none []

theorem nesting_choice_two :
    StatementFree oneParameter
      ∧ nesting (.functionDef anywhere false "f" oneParameter [(ways 2).toNode] [] none) = 3 := by
  have hparams : StatementFree oneParameter := by decide +kernel
  exact ⟨hparams, (nesting_choice (ways 2) anywhere false "f" hparams
    (List.forall_mem_nil _) (by simp)).1⟩

/-- One `elif`, as it is written. -/
def flatSource : Text :=
  "def f(x):\n    if x: pass\n    elif x: pass\n    else: pass"

/-- Its one function has two levels. -/
theorem elif_nests :
    nesting (.functionDef anywhere false "f" oneParameter [(ways 1).toNode] [] none) ≠ 1
      ∧ (treeOf flatSource).map (fun tree => (functionNodes tree).map nesting) = some [2] := by
  decide +kernel

end CodeReview.Analysis
