import CodeReview.Source.Walk
import Mathlib.Algebra.BigOperators.Group.List.Basic
import Mathlib.Logic.Relation

/-!
# Walking over trees

`Node.walk` lists a tree level by level. That is the order in which nodes come out of a queue, if
each node that is taken puts its children at the end (`walk_eq_visit`). Depth first, with each node
before its children, a tree has the same nodes, each as often (`walk_perm_preorder`). So a sum over
a walk is a sum by recursion over the tree (`sum_walk`), and what is met on a walk is the node
itself and whatever can be reached from it by going down (`mem_walk_iff`). A walk with parents has
every child of such a node, together with the node (`mem_walkWithParent`).
-/

namespace CodeReview

theorem foldl_max_le_iff {start most : Nat} {ks : List Nat} :
    ks.foldl max start ≤ most ↔ start ≤ most ∧ ∀ k ∈ ks, k ≤ most := by
  induction ks generalizing start with
  | nil => simp
  | cons k ks ih => rw [List.foldl_cons, ih, Nat.max_le, List.forall_mem_cons, and_assoc]

namespace Source.Node

/-- What holds of a node as soon as it holds of its children holds of every node. -/
@[elab_as_elim]
theorem children_induction {P : Node → Prop} (step : ∀ n, (∀ c ∈ n.children, P c) → P n)
    (n : Node) : P n :=
  step n fun c _hc => children_induction step c
termination_by sizeOf n
decreasing_by exact sizeOf_lt_of_mem_children _hc

/-! ## Depth first -/

/-- The node, then the trees below it, one after the other. -/
def preorder (n : Node) : List Node :=
  n :: n.children.attach.flatMap fun c => preorder c.1
termination_by sizeOf n
decreasing_by exact sizeOf_lt_of_mem_children c.2

theorem preorder_eq (n : Node) : n.preorder = n :: n.children.flatMap preorder := by
  rw [preorder, List.flatMap_subtype (g := preorder) fun _ _ => rfl, List.unattach_attach]

theorem mem_preorder_self (n : Node) : n ∈ n.preorder := by
  rw [preorder_eq]
  exact List.mem_cons_self

theorem preorder_sublist_of_child {n c : Node} (h : c ∈ n.children) :
    c.preorder.Sublist n.preorder := by
  rw [preorder_eq n, List.flatMap_def]
  exact (List.sublist_flatten_of_mem (List.mem_map_of_mem h)).cons n

/-- One node stands directly below another. -/
def HasChild (n c : Node) : Prop :=
  c ∈ n.children

theorem preorder_sublist {n m : Node} (h : Relation.ReflTransGen HasChild n m) :
    m.preorder.Sublist n.preorder := by
  induction h with
  | refl => exact .refl _
  | tail _ hchild ih => exact (preorder_sublist_of_child hchild).trans ih

theorem mem_preorder_iff {n m : Node} :
    m ∈ n.preorder ↔ Relation.ReflTransGen HasChild n m := by
  constructor
  · intro h
    induction n using children_induction with
    | step n ih =>
      rw [preorder_eq, List.mem_cons, List.mem_flatMap] at h
      obtain rfl | ⟨c, hc, hm⟩ := h
      · exact .refl
      · exact .head hc (ih c hc hm)
  · intro h
    exact (preorder_sublist h).subset m.mem_preorder_self

/-! ## By a queue -/

/-- What comes out of a queue, if each node that is taken puts its children at the end. -/
def visit : List Node → List Node
  | [] => []
  | n :: queue => n :: visit (queue ++ n.children)
termination_by queue => (queue.flatMap preorder).length
decreasing_by simp [preorder_eq n]; omega

/-- Nodes at the front of a queue come out first, and then the rest with all their children. -/
theorem visit_append (level queue : List Node) :
    visit (level ++ queue) = level ++ visit (queue ++ level.flatMap children) := by
  induction level generalizing queue with
  | nil => simp
  | cons n level ih =>
    -- The children of the first node wait behind the queue; those of the others come after them.
    rw [List.cons_append, visit, List.append_assoc, ih, List.append_assoc, List.flatMap_cons]
    rfl

/-- Each node of the trees in a queue comes out of it once. -/
theorem visit_perm_preorder (queue : List Node) :
    (visit queue).Perm (queue.flatMap preorder) := by
  induction queue using visit.induct with
  | case1 => rw [visit]; exact .refl _
  | case2 n queue ih =>
    rw [visit, List.flatMap_cons, preorder_eq n, List.cons_append]
    rw [List.flatMap_append] at ih
    -- The children went behind the queue, in the depth-first list they stand before it.
    exact (ih.trans List.perm_append_comm).cons n

theorem height_lt_of_child {n c : Node} (h : c ∈ n.children) : c.height < n.height := by
  have hmax : c.height ≤ (n.children.map height).foldl max 0 :=
    (foldl_max_le_iff.mp (Nat.le_refl _)).2 _ (List.mem_map_of_mem h)
  rw [height.eq_def n, List.map_subtype (g := height) fun _ _ => rfl, List.unattach_attach]
  omega

/-- Enough levels are all that there are. -/
theorem levels_eq_visit {k : Nat} {level : List Node} (h : ∀ n ∈ level, n.height ≤ k) :
    levels k level = visit level := by
  induction k generalizing level with
  | zero =>
    cases level with
    | nil => rw [levels, visit]
    | cons n level =>
      -- No node is without a level of its own.
      have hn := h n List.mem_cons_self
      rw [height] at hn
      omega
  | succ k ih =>
    cases level with
    | nil => rw [levels, visit]; exact nofun
    | cons n level =>
      have hbelow : ∀ c ∈ (n :: level).flatMap children, c.height ≤ k := by
        intro c hc
        obtain ⟨m, hm, hcm⟩ := List.mem_flatMap.mp hc
        have hlt := height_lt_of_child hcm
        have hle := h m hm
        omega
      have hvisit := visit_append (n :: level) []
      rw [List.append_nil, List.nil_append] at hvisit
      rw [levels, ih hbelow, hvisit]
      exact nofun

theorem walk_eq_visit (n : Node) : n.walk = visit [n] :=
  levels_eq_visit (by simp)

theorem walk_perm_preorder (n : Node) : n.walk.Perm n.preorder := by
  have h := visit_perm_preorder [n]
  rw [walk_eq_visit]
  simpa using h

theorem mem_walk_iff {n m : Node} : m ∈ n.walk ↔ Relation.ReflTransGen HasChild n m := by
  rw [n.walk_perm_preorder.mem_iff, mem_preorder_iff]

/-! ## Parents -/

theorem map_snd_levelsWithParent (k : Nat) (level : List (Option Node × Node)) :
    (levelsWithParent k level).map Prod.snd = levels k (level.map Prod.snd) := by
  induction k generalizing level with
  | zero => rfl
  | succ k ih =>
    cases level with
    | nil => rfl
    | cons p ps =>
      have hnext : ((p :: ps).flatMap fun q => q.2.children.map fun c => (some q.2, c)).map Prod.snd
          = ((p :: ps).map Prod.snd).flatMap children := by
        simp only [List.map_flatMap, List.map_map, List.flatMap_map, Function.comp_def,
          List.map_id']
      rw [levelsWithParent, List.map_append, ih, hnext, List.map_cons, levels]
      all_goals exact nofun

/-- Enough levels have all children of their nodes, each with its parent. -/
theorem mem_levelsWithParent_of_child {k : Nat} {level : List (Option Node × Node)}
    (hheight : ∀ p ∈ level, p.2.height ≤ k) {q : Option Node × Node}
    (hq : q ∈ levelsWithParent k level) {c : Node} (hc : c ∈ q.2.children) :
    (some q.2, c) ∈ levelsWithParent k level := by
  induction k generalizing level with
  | zero => exact absurd hq List.not_mem_nil
  | succ k ih =>
    cases level with
    | nil => exact absurd hq List.not_mem_nil
    | cons p ps =>
      let next := (p :: ps).flatMap fun q => q.2.children.map fun c => (some q.2, c)
      have hunfold : levelsWithParent (k + 1) (p :: ps) = (p :: ps) ++ levelsWithParent k next := by
        rw [levelsWithParent]
        exact nofun
      have hbelow : ∀ r ∈ next, r.2.height ≤ k := by
        intro r hr
        obtain ⟨m, hm, hr⟩ := List.mem_flatMap.mp hr
        obtain ⟨d, hd, rfl⟩ := List.mem_map.mp hr
        have hlt := height_lt_of_child hd
        have hle := hheight m hm
        change d.height ≤ k
        omega
      rw [hunfold, List.mem_append] at hq ⊢
      right
      rcases hq with hq | hq
      · -- The children of this level are the next one, which is not empty and so has a level left.
        have hnext : (some q.2, c) ∈ next :=
          List.mem_flatMap.mpr ⟨q, hq, List.mem_map_of_mem hc⟩
        cases k with
        | zero =>
          have hzero : c.height ≤ 0 := hbelow _ hnext
          rw [height] at hzero
          omega
        | succ k =>
          rw [levelsWithParent]
          · exact List.mem_append_left _ hnext
          · intro hnil
            rw [hnil] at hnext
            exact absurd hnext List.not_mem_nil
      · exact ih hbelow hq

/-- A walk with parents has each child of a node of the tree, with this node. -/
theorem mem_walkWithParent {n p c : Node} (hp : p ∈ n.walk) (hc : c ∈ p.children) :
    (some p, c) ∈ n.walkWithParent := by
  have hsnd : n.walkWithParent.map Prod.snd = n.walk := map_snd_levelsWithParent _ _
  rw [← hsnd] at hp
  obtain ⟨q, hq, rfl⟩ := List.mem_map.mp hp
  exact mem_levelsWithParent_of_child (by simp) hq hc

/-! ## Sums -/

section

variable {M : Type} [AddCommMonoid M]

/-- The weights of a node and of all nodes below it, added up on the way down. -/
def total (w : Node → M) (n : Node) : M :=
  w n + (n.children.attach.map fun c => total w c.1).sum
termination_by sizeOf n
decreasing_by exact sizeOf_lt_of_mem_children c.2

theorem total_eq (w : Node → M) (n : Node) :
    n.total w = w n + (n.children.map (total w)).sum := by
  rw [total, List.map_subtype (g := total w) fun _ _ => rfl, List.unattach_attach]

theorem sum_preorder (w : Node → M) (n : Node) : (n.preorder.map w).sum = n.total w := by
  induction n using children_induction with
  | step n ih =>
    have hchildren : n.children.map (fun c => (c.preorder.map w).sum)
        = n.children.map (total w) := List.map_congr_left ih
    rw [preorder_eq, total_eq, List.map_cons, List.sum_cons, List.map_flatMap, List.flatMap_def,
      List.sum_flatten, List.map_map, ← hchildren]
    rfl

/-- A sum over a walk is a sum by recursion over the tree. -/
theorem sum_walk (w : Node → M) (n : Node) : (n.walk.map w).sum = n.total w := by
  rw [(n.walk_perm_preorder.map w).sum_eq, sum_preorder]

end

end Source.Node

end CodeReview
