import CodeReview.Proofs.Steps
import CodeReview.Proofs.Walking
import CodeReview.Source.Render

/-!
# Expressions that can be written

An expression is written from the texts of its parts, so writing fails only where a part has no
text. There are two such parts: an integer of too many digits, and a value inside a formatted
string, whose text must do without backslashes. An expression without them can be written.
-/

namespace CodeReview.Source

open Steps

def Node.Writable (e : Node) : Prop :=
  ∃ t, e.render = .ok t

/-- A part that there may be no text for. -/
def Node.mayFail : Node → Bool
  | .formatted .. => true
  | .constant _ (.int n) => (n : Number).tooLong
  | _ => false

/-- An expression in which no part may fail. -/
def Node.Modest (e : Node) : Prop :=
  ∀ m ∈ e.walk, m.mayFail = false

instance (e : Node) : Decidable e.Modest :=
  inferInstanceAs (Decidable (∀ m ∈ e.walk, m.mayFail = false))

namespace Node.Modest

variable {e : Node} (h : e.Modest)
include h

theorem self : e.mayFail = false :=
  h e (mem_walk_iff.mpr .refl)

theorem child {c : Node} (hc : c ∈ e.children) : c.Modest :=
  fun m hm => h m (mem_walk_iff.mpr (.head hc (mem_walk_iff.mp hm)))

end Node.Modest

namespace Render

/-! ## Pieces of formatted strings -/

theorem exists_piece (n : Nat) {e : Node} (h : e.Modest) : ∃ t, node.piece n e = .ok t := by
  induction n generalizing e with
  | zero => exact ⟨[], rfl⟩
  | succ n ih =>
    cases e with
    | joined s values =>
      exact exists_bind (exists_mapM fun v hv => ih (h.child hv)) fun _ => ⟨_, rfl⟩
    | formatted s value conversion format => exact Bool.noConfusion (show true = false from h.self)
    | constant s c => cases c <;> exact ⟨_, rfl⟩
    | _ => exact ⟨_, rfl⟩

theorem exists_constant (plain : Bool) {s : Span} {c : Constant}
    (h : (Node.constant s c).mayFail = false) : ∃ t, constant plain c = .ok t := by
  cases c with
  | int n =>
    have hshort : (n : Number).tooLong = false := h
    rw [constant, hshort]
    exact ⟨_, rfl⟩
  | _ => exact ⟨_, rfl⟩

/-! ## Expressions -/

section

variable {n : Nat}
  (ih : ∀ {c : Node}, c.Modest → ∀ (plain : Bool) (rank : Nat), ∃ t, node n plain rank c = .ok t)
include ih

theorem exists_all {cs : List Node} (hcs : ∀ c ∈ cs, c.Modest) (plain : Bool) (rank : Nat) :
    ∃ ts, cs.mapM (node n plain rank) = .ok ts :=
  exists_mapM fun c hc => ih (hcs c hc) plain rank

theorem exists_dict {s : Span} {keys : List (Option Node)} {values : List Node}
    (h : (Node.dict s keys values).Modest) (plain : Bool) (rank : Nat) :
    ∃ t, node (n + 1) plain rank (.dict s keys values) = .ok t := by
  refine exists_bind (exists_mapM fun p hp => ?_) fun _ => ⟨_, rfl⟩
  obtain ⟨hkey, hvalue⟩ := List.of_mem_zip (show (p.1, p.2) ∈ keys.zip values from hp)
  obtain ⟨key, value⟩ := p
  have hv := ih (h.child (List.mem_append_right _ hvalue))
  cases key with
  | none => exact exists_bind (hv ..) fun _ => ⟨_, rfl⟩
  | some k =>
    have hk : k ∈ keys.filterMap id := List.mem_filterMap.mpr ⟨some k, hkey, rfl⟩
    exact exists_bind (ih (h.child (List.mem_append_left _ hk)) ..) fun _ =>
      exists_bind (hv ..) fun _ => ⟨_, rfl⟩

theorem exists_slice {s : Span} {lower upper step : Option Node}
    (h : (Node.slice s lower upper step).Modest) (plain : Bool) (rank : Nat) :
    ∃ t, node (n + 1) plain rank (.slice s lower upper step) = .ok t := by
  refine exists_bind ?_ fun _ => exists_bind ?_ fun _ => exists_bind ?_ fun _ => ⟨_, rfl⟩
  · cases lower with
    | none => exact ⟨_, rfl⟩
    | some e => exact ih (h.child (by simp [Node.children])) ..
  · cases upper with
    | none => exact ⟨_, rfl⟩
    | some e => exact ih (h.child (by simp [Node.children])) ..
  · cases step with
    | none => exact ⟨_, rfl⟩
    | some e => exact exists_bind (ih (h.child (by simp [Node.children])) ..) fun _ => ⟨_, rfl⟩

theorem exists_parameters {positional regular keywordOnly defaults : List Node}
    {rest keywordRest : Option Node} {keywordDefaults : List (Option Node)}
    (h : (Node.parameters positional regular rest keywordOnly keywordDefaults keywordRest
      defaults).Modest) (plain : Bool) (rank : Nat) :
    ∃ t, node (n + 1) plain rank (.parameters positional regular rest keywordOnly keywordDefaults
      keywordRest defaults) = .ok t := by
  have hfirst : ∀ c ∈ positional ++ regular, c.Modest := fun c hc =>
    h.child (by rw [Node.children]; simp only [List.mem_append] at hc ⊢; tauto)
  have hlast : ∀ c ∈ defaults, c.Modest := fun c hc => h.child (List.mem_append_right _ hc)
  refine exists_bind (exists_all ih hfirst ..) fun _ =>
    exists_bind (exists_all ih hlast ..) fun _ => ?_
  cases rest
  case' none => refine exists_bind ⟨_, rfl⟩ fun _ => ?_
  case' some p =>
    refine exists_bind (ih (h.child (by simp [Node.children])) ..) fun _ =>
      exists_bind ⟨_, rfl⟩ fun _ => ?_
  all_goals
    refine exists_bind (exists_mapM fun p hp => ?_) fun _ => ?_
    · obtain ⟨param, default⟩ := p
      obtain ⟨hparam, hdefault⟩ := List.of_mem_zip hp
      have hwritten := ih (h.child (show param ∈ _ by simp [Node.children, hparam]))
      cases default with
      | none => exact hwritten ..
      | some d =>
        exact exists_bind (hwritten ..) fun _ =>
          exists_bind (ih (h.child (by simp [Node.children, hdefault])) ..) fun _ => ⟨_, rfl⟩
    · cases keywordRest with
      | none => exact exists_bind ⟨_, rfl⟩ fun _ => ⟨_, rfl⟩
      | some p =>
        exact exists_bind (ih (h.child (by simp [Node.children])) ..) fun _ =>
          exists_bind ⟨_, rfl⟩ fun _ => ⟨_, rfl⟩

/-- One level: the parts have texts, so the whole has. -/
theorem exists_node_step {e : Node} (h : e.Modest) (plain : Bool) (rank : Nat) :
    ∃ t, node (n + 1) plain rank e = .ok t := by
  have hchild : ∀ c ∈ e.children, ∀ plain rank, ∃ t, node n plain rank c = .ok t :=
    fun c hc => ih (h.child hc)
  cases e with
  | named s target value =>
    exact exists_bind (hchild target (by simp [Node.children]) ..) fun _ =>
      exists_bind (hchild value (by simp [Node.children]) ..) fun _ => ⟨_, rfl⟩
  | boolOp s op values =>
    refine exists_bind (exists_mapM fun p hp => ?_) fun _ => ⟨_, rfl⟩
    exact hchild p.1 (List.fst_mem_of_mem_zipIdx hp) ..
  | binary s left op right =>
    exact exists_bind (hchild left (by simp [Node.children]) ..) fun _ =>
      exists_bind (hchild right (by simp [Node.children]) ..) fun _ => ⟨_, rfl⟩
  | unary s op operand =>
    cases op <;>
      exact exists_bind (hchild operand (by simp [Node.children]) ..) fun _ => ⟨_, rfl⟩
  | lambda s params body =>
    exact exists_bind (hchild params (by simp [Node.children]) ..) fun _ =>
      exists_bind (hchild body (by simp [Node.children]) ..) fun _ => ⟨_, rfl⟩
  | ifExp s condition body orelse =>
    exact exists_bind (hchild body (by simp [Node.children]) ..) fun _ =>
      exists_bind (hchild condition (by simp [Node.children]) ..) fun _ =>
      exists_bind (hchild orelse (by simp [Node.children]) ..) fun _ => ⟨_, rfl⟩
  | dict => exact exists_dict ih h plain rank
  | set s elements =>
    exact exists_bind (exists_all ih (fun _ hc => h.child hc) ..) fun _ => ⟨_, rfl⟩
  | list s elements use =>
    exact exists_bind (exists_all ih (fun _ hc => h.child hc) ..) fun _ => ⟨_, rfl⟩
  | tuple s elements use =>
    exact exists_bind (exists_all ih (fun _ hc => h.child hc) ..) fun _ => ⟨_, rfl⟩
  | comprehension s kind element cs =>
    have hcs : ∀ c ∈ cs, c.Modest := fun c hc => h.child (List.mem_cons_of_mem _ hc)
    refine exists_bind (hchild element List.mem_cons_self ..) fun _ =>
      exists_bind (exists_bind (exists_all ih hcs ..) fun _ => ⟨_, rfl⟩) fun _ => ?_
    cases kind <;> exact ⟨_, rfl⟩
  | dictComprehension s key value cs =>
    have hcs : ∀ c ∈ cs, c.Modest := fun c hc =>
      h.child (List.mem_cons_of_mem _ (List.mem_cons_of_mem _ hc))
    exact exists_bind (hchild key (by simp [Node.children]) ..) fun _ =>
      exists_bind (hchild value (by simp [Node.children]) ..) fun _ =>
      exists_bind (exists_bind (exists_all ih hcs ..) fun _ => ⟨_, rfl⟩) fun _ => ⟨_, rfl⟩
  | clause async target iter conditions =>
    refine exists_bind (hchild target (by simp [Node.children]) ..) fun _ =>
      exists_bind (hchild iter (by simp [Node.children]) ..) fun _ =>
      exists_bind (exists_mapM fun c hc => ?_) fun _ => ⟨_, rfl⟩
    have hin : c ∈ (Node.clause async target iter conditions).children :=
      List.mem_cons_of_mem _ (List.mem_cons_of_mem _ hc)
    exact exists_bind (hchild c hin ..) fun _ => ⟨_, rfl⟩
  | await s value =>
    exact exists_bind (hchild value (by simp [Node.children]) ..) fun _ => ⟨_, rfl⟩
  | yield s value =>
    cases value with
    | none => exact ⟨_, rfl⟩
    | some v => exact exists_bind (hchild v (by simp [Node.children]) ..) fun _ => ⟨_, rfl⟩
  | yieldFrom s value =>
    exact exists_bind (hchild value (by simp [Node.children]) ..) fun _ => ⟨_, rfl⟩
  | compare s left ops comparators =>
    refine exists_bind (hchild left List.mem_cons_self ..) fun _ =>
      exists_bind (exists_mapM fun p hp => ?_) fun _ => ⟨_, rfl⟩
    have hin := (List.of_mem_zip (show (p.1, p.2) ∈ ops.zip comparators from hp)).2
    exact exists_bind (hchild p.2 (List.mem_cons_of_mem _ hin) ..) fun _ => ⟨_, rfl⟩
  | call s function args keywords =>
    have hargs : ∀ c ∈ args ++ keywords, c.Modest := fun c hc =>
      h.child (List.mem_cons_of_mem _ hc)
    exact exists_bind (hchild function List.mem_cons_self ..) fun _ =>
      exists_bind (exists_all ih hargs ..) fun _ => ⟨_, rfl⟩
  | keyword s name value =>
    cases name <;>
      exact exists_bind (hchild value (by simp [Node.children]) ..) fun _ => ⟨_, rfl⟩
  | joined s values =>
    refine exists_bind (exists_mapM fun v hv => exists_piece n (h.child hv)) fun _ => ?_
    cases plain <;> exact ⟨_, rfl⟩
  | formatted s value conversion format => exact Bool.noConfusion (show true = false from h.self)
  | constant s c => exact exists_constant plain h.self
  | attr s value name use =>
    exact exists_bind (hchild value (by simp [Node.children]) ..) fun _ => ⟨_, rfl⟩
  | subscript s value index use =>
    have hindex : index.Modest := h.child (by simp [Node.children])
    refine exists_bind (hchild value (by simp [Node.children]) ..) fun _ => ?_
    dsimp only
    split
    · -- The items of a tuple are written one by one, and they are not parts of this node itself.
      obtain ⟨ts, hts⟩ := exists_all ih (fun _ hc => hindex.child hc) plain Binding.test.rank
      exact exists_bind ⟨_, congrArg (tupleItems <$> ·) hts⟩ fun _ => ⟨_, rfl⟩
    · exact exists_bind (ih hindex ..) fun _ => ⟨_, rfl⟩
  | starred s value use =>
    exact exists_bind (hchild value (by simp [Node.children]) ..) fun _ => ⟨_, rfl⟩
  | slice => exact exists_slice ih h plain rank
  | parameter s name hint =>
    cases hint with
    | none => exact ⟨_, rfl⟩
    | some a => exact exists_bind (hchild a (by simp [Node.children]) ..) fun _ => ⟨_, rfl⟩
  | parameters => exact exists_parameters ih h plain rank
  | _ => exact ⟨_, rfl⟩

end

theorem exists_node (n : Nat) {e : Node} (h : e.Modest) (plain : Bool) (rank : Nat) :
    ∃ t, node n plain rank e = .ok t := by
  induction n generalizing e plain rank with
  | zero => exact ⟨[], rfl⟩
  | succ n ih => exact exists_node_step ih h plain rank

end Render

theorem Node.Modest.writable {e : Node} (h : e.Modest) : e.Writable :=
  Render.exists_node _ h ..

end CodeReview.Source
