import CodeReview.Proofs.Grammar.Expression
import CodeReview.Source.Grammar.Pattern

/-!
# Places in patterns
-/

namespace CodeReview.Source.Grammar

open Placed
open CodeReview.Source.Parser

instance : Placed MappingItem where
  Within N item := match item with
    | .entry key pattern => Within N key ∧ Within N pattern
    | .rest _ => True

variable {g : Grammar} {N : Nat}

/-! ## Values -/

instance keeps_signedNumber : Keeps N signedNumber := by
  refine .bind fun start hs => ?_
  extract_lets number
  have hnumber : Keeps N number := by
    refine .bind fun t ht => ?_
    split
    · exact rooted ht fun _ => ⟨rfl, trivial⟩
    · infer_instance
  refine .bind fun _ _ => .ite ?_ hnumber
  exact .bind fun n hn => rooted hs fun _ => ⟨rfl, hn, trivial⟩

instance keeps_complexNumber : Keeps N complexNumber := by
  refine .bind fun start hs => .bind fun left hl => .bind fun t _ => ?_
  extract_lets op
  cases op with
  | none => exact .pure hl
  | some op =>
    refine .bind fun _ _ => .bind fun r _ => .bind fun right hr => .ite inferInstance ?_
    split
    · exact rooted hs fun _ => ⟨rfl, hl, hr, trivial⟩
    · infer_instance

instance keeps_dotted : Keeps N dotted := by
  refine .bind fun start hs => .bind fun id _ => .andThen (keeps_spanFrom hs) fun place hplace => ?_
  refine .loop (Node.within hplace trivial) fun acc hacc => .bind fun _ _ => .bind fun name _ => ?_
  exact rooted hs fun _ => ⟨rfl, hacc, trivial⟩

variable [hg : ∀ k, Keeps N (g k)]

instance keeps_literalValue : Keeps N (literalValue g) := by
  refine .bind fun t _ => ?_
  split
  all_goals infer_instance

/-! ## Captures and sequences -/

instance keeps_captureName : Keeps N captureName := by
  refine .bind fun name hname => .pure ?_
  split
  · trivial
  · exact hname

instance keeps_starPattern : Keeps N starPattern := by
  refine .bind fun start hs => .bind fun name _ => ?_
  exact rooted hs fun _ => ⟨rfl, trivial⟩

instance keeps_maybeStar : Keeps N (maybeStar g) :=
  .bind fun _ _ => .ite inferInstance inferInstance

instance keeps_patternItems {close : Text} : Keeps N (patternItems g close) := by
  refine .bind fun _ _ => .ite (.pure ⟨trivial, trivial⟩) ?_
  exact .bind fun first hfirst => keeps_moreItems hfirst

/-! ## Mappings and classes -/

instance keeps_mappingItem : Keeps N (mappingItem g) := by
  refine .bind fun _ _ => .ite (.bind fun name _ => ?_) ?_
  · cases name with
    | some name => exact .pure trivial
    | none => infer_instance
  · extract_lets ending
    have hending (key : Node) (hkey : Within N key) : Keeps N (ending key) := by
      simp -zeta only [ending]
      extract_lets entry
      have hentry (u : Unit) : Keeps N (entry u) :=
        .bind fun _ _ => .bind fun pattern hp => .pure ⟨hkey, hp⟩
      clear_value entry
      split
      · exact .bind fun u _ => hentry u
      · exact hentry ()
    exact .bind fun t _ => .ite (.bind hending) (.bind hending)

instance keeps_mappingPattern : Keeps N (mappingPattern g) := by
  refine .bind fun start hs => ?_
  extract_lets ending
  have hending (items : List MappingItem) (hitems : Within N items) : Keeps N (ending items) := by
    refine .bind fun _ _ => .ite (spanned hs fun span h => ?_) inferInstance
    refine Node.within h (.append ?_ ?_)
    · refine hitems.filterMap fun item hitem => ?_
      cases item with
      | entry key pattern => exact hitem.1
      | rest name => trivial
    · refine hitems.filterMap fun item hitem => ?_
      cases item with
      | entry key pattern => exact hitem.2
      | rest name => trivial
  clear_value ending
  refine .bind fun _ _ => .ite (.andThen (.pure trivial) hending) ?_
  exact .bind fun items hitems => .bind fun _ _ => .andThen (.pure hitems) hending

instance keeps_classItem : Keeps N (classItem g) := by
  refine .bind fun _ _ => .ite ?_ ?_
  · exact .bind fun name hname => .bind fun _ _ => .bind fun pattern hp => .pure ⟨hname, hp⟩
  · exact .bind fun pattern hp => .pure ⟨trivial, hp⟩

theorem keeps_classPattern {start : Token} {type : Node} (hs : Within N start)
    (htype : Within N type) : Keeps N (classPattern g start type) := by
  refine .bind fun _ _ => ?_
  extract_lets ending
  have hending (items : List (Option Text × Node)) (hitems : Within N items) :
      Keeps N (ending items) := by
    refine .bind fun _ _ => .ite (spanned hs fun span h => ?_) inferInstance
    refine Node.within h ⟨htype, Within.append ?_ ?_⟩
    · exact (hitems.subset fun _ => (List.takeWhile_sublist _).mem).map fun _ hi => hi.2
    · exact (hitems.subset fun _ => List.mem_of_mem_drop).map fun _ hi => hi.2
  clear_value ending
  refine .bind fun _ _ => .ite (.andThen (.pure trivial) hending) ?_
  exact .bind fun items hitems => .bind fun _ _ => .andThen (.pure hitems) hending

/-! ## Patterns -/

instance keeps_closedPattern : Keeps N (closedPattern g) := by
  refine .bind fun t ht => ?_
  have value (p : Parser Node) [Keeps N p] :
      Keeps N (do
        let value ← p
        return Node.matchValue (← spanFrom t) value) :=
    .bind fun v hv => rooted ht fun _ => ⟨rfl, hv, trivial⟩
  split
  · refine .ite (.bind fun _ _ => rooted ht fun _ => ⟨rfl, trivial⟩) ?_
    refine .bind fun v hv => .bind fun _ _ => .ite (keeps_classPattern ht hv) ?_
    split
    · exact rooted ht fun _ => ⟨rfl, trivial⟩
    · exact rooted ht fun _ => ⟨rfl, hv, trivial⟩
  · refine .bind fun v hv => ?_
    split
    · next s c =>
      have hs : Within N s := Node.within_span? hv
      exact .pure (Node.within hs trivial)
    · infer_instance
  · exact value _
  · exact value _
  · refine .ite (value _) (.ite ?_ (.ite ?_ inferInstance))
    · refine .bind fun _ _ => .bind fun p hp => .bind fun _ _ => ?_
      obtain ⟨items, several⟩ := p
      dsimp only
      split
      · infer_instance
      · exact .pure hp.1.1
      · exact rooted ht fun _ => ⟨rfl, hp.1⟩
    · refine .bind fun _ _ => .bind fun p hp => .bind fun _ _ => ?_
      exact rooted ht fun _ => ⟨rfl, hp.1⟩
  · infer_instance

instance keeps_alternatives : Keeps N (alternatives g) := by
  refine .bind fun start hs => .bind fun ps hps => ?_
  split
  · exact .pure hps.1
  · exact rooted hs fun _ => ⟨rfl, hps⟩

instance keeps_pattern : Keeps N (pattern g) := by
  refine .bind fun start hs => .bind fun whole hw => .bind fun _ _ => .ite ?_ (.pure hw)
  refine .bind fun name _ => .ite inferInstance ?_
  exact rooted hs fun _ => ⟨rfl, hw, trivial⟩

instance keeps_patterns : Keeps N (patterns g) := by
  refine .bind fun start hs => .bind fun first hfirst => ?_
  refine .andThen (keeps_moreItems hfirst) fun p hp => ?_
  obtain ⟨items, several⟩ := p
  dsimp only
  split
  · infer_instance
  · exact .pure hfirst
  · exact rooted hs fun _ => ⟨rfl, hp.1⟩

end CodeReview.Source.Grammar
