import CodeReview.Source.Token
import CodeReview.Source.Walk

/-!
# Values within the lines of a text

Tokens, nodes and what is put together from them carry the numbers of lines. Such a value is within
`N` lines if every number in it is at least one and at most `N`. For a node that means the node and
all nodes below it; for a token, which may go over several lines, its first and its last line.
-/

namespace CodeReview.Source

/-- Values that may carry numbers of lines. -/
class Placed (α : Type) where
  Within (N : Nat) : α → Prop

export Placed (Within)

namespace Placed

/-- Values that carry no number of a line. -/
@[reducible] def anywhere (α : Type) : Placed α :=
  ⟨fun _ _ => True⟩

instance : Placed Unit := anywhere Unit
instance : Placed Bool := anywhere Bool
instance : Placed Char := anywhere Char
instance : Placed Nat := anywhere Nat
instance : Placed UInt8 := anywhere UInt8

/-- Every member is within the lines. -/
def each {α : Type} [Placed α] (N : Nat) : List α → Prop
  | [] => True
  | a :: l => Within N a ∧ each N l

/-- What is there is within the lines. -/
def ifAny {α : Type} [Placed α] (N : Nat) : Option α → Prop
  | none => True
  | some a => Within N a

instance {α : Type} [Placed α] : Placed (List α) := ⟨each⟩
instance {α : Type} [Placed α] : Placed (Option α) := ⟨ifAny⟩
instance {α β : Type} [Placed α] [Placed β] : Placed (α × β) :=
  ⟨fun N p => Within N p.1 ∧ Within N p.2⟩

variable {α β : Type} [Placed α] [Placed β] {N : Nat} {k l : List α} {o : Option α}

theorem within_iff_forall : Within N l ↔ ∀ a ∈ l, Within N a := by
  induction l with
  | nil => exact ⟨fun _ _ ha => absurd ha List.not_mem_nil, fun _ => trivial⟩
  | cons a l ih =>
    rw [List.forall_mem_cons, ← ih]
    exact Iff.rfl

theorem Within.of_mem {a : α} (h : Within N l) (ha : a ∈ l) : Within N a :=
  within_iff_forall.mp h a ha

/-- A list of members of another list. -/
theorem Within.subset (h : Within N l) (hk : ∀ a ∈ k, a ∈ l) : Within N k :=
  within_iff_forall.mpr fun a ha => h.of_mem (hk a ha)

theorem Within.append (hk : Within N k) (hl : Within N l) : Within N (k ++ l) := by
  rw [within_iff_forall, List.forall_mem_append]
  exact ⟨within_iff_forall.mp hk, within_iff_forall.mp hl⟩

theorem Within.concat {a : α} (hl : Within N l) (ha : Within N a) : Within N (l ++ [a]) :=
  hl.append ⟨ha, trivial⟩

theorem Within.reverse (h : Within N l) : Within N l.reverse :=
  h.subset fun _ => List.mem_reverse.mp

theorem Within.toList (h : Within N o) : Within N o.toList := by
  cases o with
  | none => trivial
  | some a => exact ⟨h, trivial⟩

theorem Within.map {f : α → β} (h : Within N l) (hf : ∀ a, Within N a → Within N (f a)) :
    Within N (l.map f) := by
  rw [within_iff_forall, List.forall_mem_map]
  exact fun a ha => hf a (h.of_mem ha)

theorem Within.filterMap {f : α → Option β} (h : Within N l)
    (hf : ∀ a, Within N a → Within N (f a)) : Within N (l.filterMap f) := by
  rw [within_iff_forall]
  intro b hb
  obtain ⟨a, ha, hab⟩ := List.mem_filterMap.mp hb
  have hfa := hf a (h.of_mem ha)
  rw [hab] at hfa
  exact hfa

theorem Within.flatMap {f : α → List β} (h : Within N l)
    (hf : ∀ a, Within N a → Within N (f a)) : Within N (l.flatMap f) := by
  rw [within_iff_forall]
  intro b hb
  obtain ⟨a, ha, hab⟩ := List.mem_flatMap.mp hb
  exact (hf a (h.of_mem ha)).of_mem hab

theorem Within.flatten {ls : List (List α)} (h : Within N ls) : Within N ls.flatten := by
  rw [within_iff_forall]
  intro a ha
  obtain ⟨l, hl, hal⟩ := List.mem_flatten.mp ha
  exact (h.of_mem hl).of_mem hal

end Placed

open Placed

/-! ## Tokens and nodes -/

/-- The number of line feeds in a text. -/
def breaks (t : Text) : Nat :=
  t.countP (· = '\n')

/-- The first and the last line of a token. Line ends other than line feeds do not occur in it. -/
structure Token.Inside (N : Nat) (t : Token) : Prop where
  first : 1 ≤ t.line
  last : t.line + breaks t.text ≤ N
  plain : '\x0d' ∉ t.text

instance : Placed Token := ⟨Token.Inside⟩

instance : Placed Span := ⟨fun N s => 1 ≤ s.line ∧ s.line ≤ N⟩

/-- A node and all nodes below it. -/
inductive Node.Inside (N : Nat) : Node → Prop
  | intro {n : Node} (span : Within N n.span?) (children : ∀ c ∈ n.children, Node.Inside N c) :
    Node.Inside N n

instance : Placed Node := ⟨Node.Inside⟩

namespace Node

variable {N : Nat} {n : Node}

theorem within (hs : Within N n.span?) (hc : Within N n.children) : Within N n :=
  .intro hs (within_iff_forall.mp hc)

theorem within_span? (h : Within N n) : Within N n.span? := by
  cases h with
  | intro hs _ => exact hs

theorem within_children (h : Within N n) : Within N n.children := by
  cases h with
  | intro _ hc => exact within_iff_forall.mpr hc

theorem line_mem (h : Within N n) (hs : n.span?.isSome) : 1 ≤ n.line ∧ n.line ≤ N := by
  obtain ⟨s, hs⟩ := Option.isSome_iff_exists.mp hs
  have hspan := within_span? h
  rw [hs] at hspan
  rw [line, span, hs]
  exact hspan

/-! ## Walks -/

theorem within_levels {k : Nat} {level : List Node} (h : Within N level) :
    Within N (levels k level) := by
  induction k generalizing level with
  | zero => trivial
  | succ k ih =>
    cases level with
    | nil => trivial
    | cons m ms => exact h.append (ih (h.flatMap fun _ => within_children))

/-- Every node of a walk is within the lines of the node at which it starts. -/
theorem within_walk (h : Within N n) : Within N n.walk :=
  within_levels ⟨h, trivial⟩

theorem within_levelsWithParent {k : Nat} {level : List (Option Node × Node)}
    (h : Within N level) : Within N (levelsWithParent k level) := by
  induction k generalizing level with
  | zero => trivial
  | succ k ih =>
    cases level with
    | nil => trivial
    | cons p ps =>
      refine h.append (ih (h.flatMap fun q hq => ?_))
      exact (within_children hq.2).map fun c hc => ⟨hq.2, hc⟩

theorem within_walkWithParent (h : Within N n) : Within N n.walkWithParent :=
  within_levelsWithParent ⟨⟨trivial, h⟩, trivial⟩

end Node

end CodeReview.Source
