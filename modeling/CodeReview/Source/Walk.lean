import CodeReview.Source.Node

/-!
Walking over a tree: level by level, each level from left to right.
-/

namespace CodeReview.Source.Node

theorem sizeOf_lt_of_mem_toList {c : Node} {o : Option Node} (h : c ∈ o.toList) :
    sizeOf c < sizeOf o := by
  cases o with
  | none => simp at h
  | some a =>
    simp at h
    subst h
    simp

theorem sizeOf_lt_of_mem_filterMap {c : Node} {l : List (Option Node)}
    (h : c ∈ l.filterMap id) : sizeOf c < sizeOf l := by
  simp only [List.mem_filterMap, id] at h
  obtain ⟨a, ha, rfl⟩ := h
  have := List.sizeOf_lt_of_mem ha
  simp at this
  omega

/-- A child is smaller than its parent. -/
theorem sizeOf_lt_of_mem_children {n c : Node} (h : c ∈ n.children) : sizeOf c < sizeOf n := by
  have hl := fun (l : List Node) (h : c ∈ l) => List.sizeOf_lt_of_mem h
  have ho := fun (o : Option Node) (h : c ∈ o.toList) => sizeOf_lt_of_mem_toList h
  have hf := fun (l : List (Option Node)) (h : c ∈ l.filterMap id) =>
    sizeOf_lt_of_mem_filterMap h
  cases n <;> simp [children] at h ⊢ <;> grind

/-- The number of levels of a tree. -/
def height (n : Node) : Nat :=
  1 + (n.children.attach.map fun c => height c.1).foldl max 0
termination_by sizeOf n
decreasing_by exact sizeOf_lt_of_mem_children c.2

/-- Some levels of nodes, the given one first. -/
def levels : Nat → List Node → List Node
  | 0, _ => []
  | _, [] => []
  | n + 1, level => level ++ levels n (level.flatMap children)

/-- The node and all nodes below it. -/
def walk (n : Node) : List Node :=
  levels n.height [n]

/-- The nodes of `walk` with their parents; the first node has none. -/
def levelsWithParent : Nat → List (Option Node × Node) → List (Option Node × Node)
  | 0, _ => []
  | _, [] => []
  | n + 1, level =>
    level ++ levelsWithParent n (level.flatMap fun p => p.2.children.map fun c => (some p.2, c))

def walkWithParent (n : Node) : List (Option Node × Node) :=
  levelsWithParent n.height [(none, n)]

end CodeReview.Source.Node
