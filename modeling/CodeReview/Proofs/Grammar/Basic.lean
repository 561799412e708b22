import CodeReview.Proofs.Keeping
import CodeReview.Proofs.Steps
import CodeReview.Source.Grammar.Parameters

/-!
# Places in what is common to the rules, and in parameter lists

A place is made by `spanFrom` alone, from a token that was read. Turning an expression into a target
keeps the places of its parts.
-/

namespace CodeReview.Source

open Placed

instance : (k : Goal) → Placed k.Out
  | .statement | .block => inferInstanceAs (Placed (List Node))
  | .expression | .starExpressions | .named | .starNamed | .disjunction | .inversion | .bitwiseOr
  | .factor | .primary | .elif | .pattern | .patterns => inferInstanceAs (Placed Node)

namespace Grammar

open CodeReview.Source.Parser

variable {g : Grammar} {N : Nat} {α : Type} [Placed α]

theorem keeps_spanFrom {start : Token} (h : Within N start) : Keeps N (spanFrom start) := by
  constructor
  intro r s _ hs a t e
  cases e
  exact ⟨⟨h.first, Nat.le_trans (Nat.le_add_right ..) h.last⟩, hs⟩

/-- A rule that ends with what stands at the place from a token on. -/
theorem spanned {start : Token} (hs : Within N start) {f : Span → α}
    (h : ∀ span, Within N span → Within N (f span)) :
    Keeps N (spanFrom start >>= fun span => Pure.pure (f span)) :=
  (keeps_spanFrom hs).andThen fun span hspan => .pure (h span hspan)

/-- A rule that ends with a node there. -/
theorem rooted {start : Token} (hs : Within N start) {f : Span → Node}
    (h : ∀ span, (f span).span? = some span ∧ Within N (f span).children) :
    Keeps N (spanFrom start >>= fun span => Pure.pure (f span)) :=
  spanned hs fun span hspan => Node.within ((h span).1 ▸ hspan) (h span).2

instance keeps_identifier : Keeps N identifier :=
  .bind fun _ _ => .pure (within_iff_forall.mpr fun _ _ => trivial)

instance keeps_seesPair {first second : Token → Bool} : Keeps N (seesPair first second) :=
  Keeps.lookahead

theorem keeps_moreItems {item : Parser Node} [Keeps N item] {first : Node} (h : Within N first) :
    Keeps N (moreItems item first) := by
  refine .andThen (.loop ?_ fun acc hacc => ?_) fun found hfound => ?_
  · exact ⟨h, trivial⟩
  · exact .bind fun _ _ => .bind fun n hn => .pure ⟨hn, hacc⟩
  · exact .bind fun _ _ => .pure ⟨hfound.reverse, trivial⟩

/-! ## Targets -/

mutual

theorem within_asTarget {use : Use} {n m : Node} (e : asTarget use n = some m) (h : Within N n) :
    Within N m := by
  have hs := Node.within_span? h
  have hc := Node.within_children h
  unfold asTarget at e
  split at e
  · cases e
    exact Node.within hs hc
  · cases e
    exact Node.within hs hc
  · cases e
    exact Node.within hs hc
  · split at e
    · cases e
    · obtain ⟨v, hv, rfl⟩ := Option.map_eq_some_iff.mp e
      exact Node.within hs ⟨within_asTarget hv hc.1, trivial⟩
  · obtain ⟨ms, hms, rfl⟩ := Option.map_eq_some_iff.mp e
    exact Node.within hs (within_asTargets hms hc)
  · obtain ⟨ms, hms, rfl⟩ := Option.map_eq_some_iff.mp e
    exact Node.within hs (within_asTargets hms hc)
  · cases e

theorem within_asTargets {use : Use} {ns ms : List Node} (e : asTargets use ns = some ms)
    (h : Within N ns) : Within N ms := by
  cases ns with
  | nil =>
    cases e
    trivial
  | cons n ns =>
    unfold asTargets at e
    split at e
    · next hn hns =>
      cases e
      exact ⟨within_asTarget hn h.1, within_asTargets hns h.2⟩
    · cases e

end

theorem within_target {use : Use} {n : Node} (h : Within N n) : Within N (asTarget use n) := by
  cases e : asTarget use n with
  | none => trivial
  | some m => exact within_asTarget e h

/-! ## Parameters -/

variable [hg : ∀ k, Keeps N (g k)]

instance keeps_parameter {annotated starred : Bool} : Keeps N (parameter g annotated starred) := by
  refine .bind fun start hs => .bind fun name _ => ?_
  have whole (hint : Option Node) (hh : Within N hint) :
      Keeps N (do return Node.parameter (← spanFrom start) name hint) :=
    rooted hs fun _ => ⟨rfl, hh.toList⟩
  refine .ite (.bind fun _ _ => .ite (.bind fun t ht => .ite ?_ ?_) ?_) ?_
  · refine .bind fun _ _ => .bind fun value hv => .andThen (keeps_spanFrom ht) fun span h => ?_
    have hn : Within N (Node.starred span value .load) := Node.within h ⟨hv, trivial⟩
    exact .andThen (.pure (a := some _) hn) whole
  · exact .bind whole
  · exact .andThen (.pure trivial) whole
  · exact .andThen (.pure trivial) whole

/-! ## Items of a parameter list -/

instance : Placed ParameterItem where
  Within N item := match item with
    | .plain param default => Within N param ∧ Within N default
    | .slash _ | .star _ => True
    | .rest _ param | .keywordRest _ param => Within N param

instance keeps_parameterItem {annotated : Bool} : Keeps N (parameterItem g annotated) := by
  refine .bind fun t ht => .ite ?_ (.ite ?_ (.ite ?_ ?_))
  · exact .bind fun _ _ => .pure trivial
  · exact .bind fun _ _ => .bind fun p hp => .bind fun _ _ => .pure hp
  · refine .bind fun _ _ => .bind fun _ _ => .ite ?_ (.pure trivial)
    exact .bind fun p hp => .bind fun _ _ => .pure hp
  · refine .bind fun p hp => .bind fun _ _ => .ite ?_ ?_
    · exact .bind fun d hd => .pure ⟨hp, hd⟩
    · exact .andThen (.pure trivial) fun d hd => .pure ⟨hp, hd⟩

instance keeps_delimitedItem {annotated : Bool} : Keeps N (delimitedItem g annotated) :=
  .bind fun _ hitem => .bind fun _ _ =>
    .ite (.pure hitem) (.bind fun _ _ => .ite (.pure hitem) inferInstance)

/-! ## Lists of parameters -/

/-- What has been gathered of a parameter list. -/
structure ParameterParts.Inside (N : Nat) (p : ParameterParts) : Prop where
  positional : Within N p.positional
  regular : Within N p.regular
  rest : Within N p.rest
  keywordOnly : Within N p.keywordOnly
  keywordDefaults : Within N p.keywordDefaults
  keywordRest : Within N p.keywordRest
  defaults : Within N p.defaults

instance : Placed ParameterParts := ⟨ParameterParts.Inside⟩

namespace ParameterParts

variable {p q : ParameterParts} {item : ParameterItem}

theorem within_empty : Within N ({} : ParameterParts) :=
  ⟨trivial, trivial, trivial, trivial, trivial, trivial, trivial⟩

theorem within_toNode (h : Within N p) : Within N p.toNode :=
  Node.within trivial <|
    h.positional.append h.regular |>.append h.rest.toList |>.append h.keywordOnly
      |>.append (h.keywordDefaults.filterMap fun _ => id) |>.append h.keywordRest.toList
      |>.append h.defaults

theorem within_add (h : Within N p) (hitem : Within N item) (e : p.add item = .ok q) :
    Within N q := by
  unfold add at e
  split at e
  · next param default =>
    obtain ⟨hparam, hdefault⟩ := hitem
    split at e
    · cases e
    split at e
    · cases e
      exact { h with
        keywordOnly := h.keywordOnly.concat hparam
        keywordDefaults := h.keywordDefaults.concat hdefault }
    split at e
    · cases e
      exact { h with
        regular := h.regular.concat hparam
        defaults := h.defaults.concat hdefault }
    split at e
    · cases e
      exact { h with regular := h.regular.concat hparam }
    · cases e
  · split at e
    · cases e
    split at e
    · cases e
    split at e
    · cases e
    split at e
    · cases e
    · cases e
      exact { h with positional := h.regular, regular := trivial }
  · split at e
    · cases e
    split at e
    · cases e
    · cases e
      exact { h with }
  · split at e
    · cases e
    split at e
    · cases e
    · cases e
      exact { h with rest := hitem }
  · split at e
    · cases e
    split at e
    · cases e
    · cases e
      exact { h with keywordRest := hitem }

theorem within_foldlM {items : List ParameterItem} (hp : Within N p) (hitems : Within N items)
    (e : items.foldlM (fun p item => p.add item) p = .ok q) : Within N q := by
  induction items generalizing p with
  | nil =>
    cases e
    exact hp
  | cons item items ih =>
    rw [List.foldlM_cons] at e
    obtain ⟨_, hadd, e⟩ := Steps.bind_ok e
    exact ih (within_add hp hitems.1 hadd) hitems.2 e

end ParameterParts

instance keeps_parameters {annotated : Bool} : Keeps N (parameters g annotated) := by
  refine .bind fun items hitems => ?_
  dsimp only
  split
  · next p hp =>
    refine .bind fun _ _ => .pure (ParameterParts.within_toNode ?_)
    obtain ⟨q, hq, hfinish⟩ := Steps.bind_ok hp
    have hwithin := ParameterParts.within_foldlM ParameterParts.within_empty hitems hq
    unfold ParameterParts.finish at hfinish
    split at hfinish
    · cases hfinish
    · cases hfinish
      exact hwithin
  · infer_instance

end Grammar

end CodeReview.Source
