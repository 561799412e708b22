import CodeReview.Proofs.Grammar.Pattern
import CodeReview.Source.Parse

/-!
# Places in statements, and in whole texts
-/

namespace CodeReview.Source.Grammar

open Placed
open CodeReview.Source.Parser

variable {g : Grammar} {N : Nat} [hg : ∀ k, Keeps N (g k)]

/-! ## Assignments -/

instance keeps_assignedValue : Keeps N (assignedValue g) :=
  .bind fun _ _ => .ite inferInstance inferInstance

theorem within_singleTarget {n m : Node} (e : singleTarget n = some m) (h : Within N n) :
    Within N m := by
  have hs := Node.within_span? h
  have hc := Node.within_children h
  unfold singleTarget at e
  split at e
  all_goals cases e
  all_goals exact Node.within hs hc

theorem keeps_assignmentChain (n : Nat) {targets : List Node} {value : Node}
    (ht : Within N targets) (hv : Within N value) :
    Keeps N (assignmentChain g n targets value) := by
  induction n generalizing targets value with
  | zero => exact inferInstanceAs (Keeps N fail)
  | succ n ih =>
    refine .bind fun _ _ => .ite ?_ (.pure ⟨ht.reverse, hv⟩)
    split
    · infer_instance
    · next target hsome =>
      refine .bind fun _ _ => .bind fun next hnext => ?_
      exact ih ⟨within_asTarget hsome hv, ht⟩ hnext

instance keeps_hintsGroup : Keeps N (hintsGroup g) :=
  .lookahead

instance keeps_assignment : Keeps N (assignment g) := by
  refine .bind fun start hs => .bind fun whole _ => .bind fun first hfirst => .bind fun t _ =>
    .ite ?_ (.ite ?_ ?_)
  · split
    · infer_instance
    · next target hsome =>
      have htarget := within_singleTarget (Option.ite_none_left_eq_some.mp hsome).2 hfirst
      refine .bind fun _ _ => .bind fun hint hh => .bind fun value hv => ?_
      exact rooted hs fun _ => ⟨rfl, htarget, hh, hv.toList⟩
  · -- As many links are tried as there are tokens left, so the bound depends on the state.
    have chain (n : Nat) : Keeps N (assignmentChain g n [] first) :=
      keeps_assignmentChain n trivial hfirst
    refine .andThen ?_ fun p hp => ?_
    · constructor
      intro r s hr hs a t e
      exact (chain (s.rest.length + 1)).yields hr hs e
    · exact rooted hs fun _ => ⟨rfl, hp.1.concat hp.2⟩
  · split
    · split
      · infer_instance
      · next target hsome =>
        have htarget := within_singleTarget hsome hfirst
        refine .bind fun _ _ => .bind fun value hv => ?_
        exact rooted hs fun _ => ⟨rfl, htarget, hv, trivial⟩
    · infer_instance

instance keeps_expressionStatement : Keeps N (expressionStatement g) := by
  refine .bind fun start hs => .bind fun found hfound => ?_
  cases found with
  | some n => exact .pure hfound
  | none =>
    refine .bind fun _ _ => .bind fun value hv => ?_
    exact rooted hs fun _ => ⟨rfl, hv, trivial⟩

/-! ## Simple statements -/

instance keeps_importAlias {name : Parser Text} [Keeps N name] : Keeps N (importAlias name) := by
  refine .bind fun start hs => .bind fun name _ => .bind fun _ _ => ?_
  have whole (asName : Option Text) (_ : Within N asName) :
      Keeps N (do return Node.importName (← spanFrom start) name asName) :=
    rooted hs fun _ => ⟨rfl, trivial⟩
  exact .ite (.bind whole) (.andThen (.pure trivial) whole)

instance keeps_dottedName : Keeps N dottedName :=
  .bind fun _ _ => .pure (within_iff_forall.mpr fun _ _ => trivial)

instance keeps_importStatement : Keeps N importStatement := by
  refine .bind fun start hs => .bind fun names hn => ?_
  exact rooted hs fun _ => ⟨rfl, hn⟩

instance keeps_importLevel : Keeps N importLevel := by
  refine .andThen (.many (h := ?_)) fun _ _ => .pure trivial
  exact .bind fun _ _ => .ite (.pure trivial) (.bind fun _ _ => .pure trivial)

instance keeps_importTargets : Keeps N importTargets := by
  refine .bind fun t ht => .ite ?_ (.ite ?_ ?_)
  · exact .bind fun _ _ => spanned ht fun span h => ⟨Node.within h trivial, trivial⟩
  · exact .bind fun _ _ => .bind fun names hn => .bind fun _ _ => .bind fun _ _ => .pure hn
  · exact .bind fun names hn => .bind fun _ _ => .ite inferInstance (.pure hn)

instance keeps_importFromStatement : Keeps N importFromStatement := by
  refine .bind fun start hs => .bind fun level _ => .bind fun _ _ => ?_
  extract_lets ending
  have hending (source : Option Text) (_ : Within N source) : Keeps N (ending source) := by
    refine .ite inferInstance (.bind fun _ _ => .bind fun names hn => ?_)
    exact rooted hs fun _ => ⟨rfl, hn⟩
  exact .ite (.andThen (.pure trivial) hending) (.bind hending)

instance keeps_deleteStatement : Keeps N (deleteStatement g) := by
  refine .bind fun start hs => ?_
  extract_lets item
  have hitem : Keeps N item := by
    refine .bind fun value hv => ?_
    split
    · next t hsome => exact .pure (within_asTarget hsome hv)
    · infer_instance
  refine .andThen (.optional (h := ?_)) fun targets ht => ?_
  · refine .bind fun first hfirst => .andThen (keeps_moreItems hfirst) fun p hp => ?_
    exact .bind fun _ _ => .ite (.pure hp.1) inferInstance
  · cases targets with
    | some ts => exact rooted hs fun _ => ⟨rfl, ht⟩
    | none => infer_instance

instance keeps_simpleStatement : Keeps N (simpleStatement g) := by
  refine .bind fun t ht => ?_
  extract_lets only
  have hpass : Keeps N (only .passStmt) :=
    .bind fun _ _ => rooted ht fun _ => ⟨rfl, trivial⟩
  have hbreak : Keeps N (only .breakStmt) :=
    .bind fun _ _ => rooted ht fun _ => ⟨rfl, trivial⟩
  have hcontinue : Keeps N (only .continueStmt) :=
    .bind fun _ _ => rooted ht fun _ => ⟨rfl, trivial⟩
  refine .ite ?_ (.ite inferInstance (.ite inferInstance (.ite ?_ (.ite hpass (.ite inferInstance
    (.ite ?_ (.ite hbreak (.ite hcontinue (.ite ?_ inferInstance)))))))))
  · refine .bind fun _ _ => .bind fun value hv => ?_
    exact rooted ht fun _ => ⟨rfl, hv.toList⟩
  · refine .bind fun _ _ => .bind fun exception he => ?_
    cases exception with
    | none => exact rooted ht fun _ => ⟨rfl, trivial⟩
    | some e =>
      refine .bind fun cause hc => ?_
      exact rooted ht fun _ => ⟨rfl, he.toList.append hc.toList⟩
  · refine .bind fun _ _ => .bind fun test htest => .bind fun message hm => ?_
    exact rooted ht fun _ => ⟨rfl, htest, hm.toList⟩
  · exact .bind fun _ _ => .bind fun names _ => rooted ht fun _ => ⟨rfl, trivial⟩

instance keeps_simpleStatements : Keeps N (simpleStatements g) :=
  .bind fun _ hfound => .bind fun _ _ => .bind fun _ _ => .pure hfound

/-! ## Blocks -/

instance keeps_headColon : Keeps N headColon :=
  .bind fun _ _ => .bind fun _ _ => .pure trivial

instance keeps_blockAfter {what : Text} {head : Token} : Keeps N (blockAfter g what head) :=
  .bind fun _ _ => hg .block

instance keeps_block : Keeps N (block g) := by
  refine .bind fun _ _ => .ite ?_ inferInstance
  refine .bind fun _ _ => .bind fun _ _ => .bind fun body hb => .bind fun _ _ => ?_
  exact .pure hb.flatten

instance keeps_elseBlock : Keeps N (elseBlock g) :=
  .bind fun _ _ => .bind fun _ _ => inferInstance

instance keeps_optionalElse : Keeps N (optionalElse g) :=
  .bind fun _ _ => .ite inferInstance (.pure trivial)

/-! ## Compound statements -/

instance keeps_ifFrom {w : Text} : Keeps N (ifFrom g w) := by
  refine .bind fun start hs => .bind fun test ht => .bind fun _ _ => .bind fun body hb => ?_
  have whole (orelse : List Node) (ho : Within N orelse) :
      Keeps N (do return Node.ifStmt (← spanFrom start) test body orelse) :=
    rooted hs fun _ => ⟨rfl, ht, hb.append ho⟩
  refine .bind fun _ _ => .ite (.bind fun n hn => ?_) (.bind whole)
  have hone : Within N [n] := ⟨hn, trivial⟩
  exact .andThen (.pure hone) whole

instance keeps_whileStatement : Keeps N (whileStatement g) := by
  refine .bind fun start hs => .bind fun test ht => .bind fun _ _ => .bind fun body hb => ?_
  refine .bind fun orelse ho => ?_
  exact rooted hs fun _ => ⟨rfl, ht, hb.append ho⟩

theorem keeps_forStatement {start : Token} {async : Bool} (hs : Within N start) :
    Keeps N (forStatement g start async) := by
  refine .bind fun head _ => .andThen (.optional (h := ?_)) fun target ht => ?_
  · exact .bind fun t ht => .bind fun _ _ => .pure ht
  cases target with
  | none => infer_instance
  | some target =>
    refine .bind fun iter hi => .bind fun _ _ => .bind fun body hb => .bind fun orelse ho => ?_
    exact rooted hs fun _ => ⟨rfl, ht, hi, hb.append ho⟩

instance keeps_withItem : Keeps N (withItem g) := by
  refine .bind fun context hc => .andThen (.optional (h := ?_)) fun target ht => ?_
  · refine .bind fun _ _ => .bind fun t ht => ?_
    extract_lets ending
    have hending (target : Option Node) (h : Within N target) : Keeps N (ending target) := by
      cases target with
      | some n => exact .bind fun _ _ => .ite (.pure h) inferInstance
      | none => infer_instance
    clear_value ending
    refine .ite (.bind fun _ _ => .bind fun value hv => ?_) (.andThen ?_ hending)
    · refine .andThen (keeps_spanFrom ht) fun span h => .andThen (.pure (within_target ?_)) hending
      exact Node.within h ⟨hv, trivial⟩
    · exact .bind fun value hv => .pure (within_target hv)
  · exact .bind fun _ _ => .pure (Node.within trivial ⟨hc, ht.toList⟩)

theorem keeps_withStatement {start : Token} {async : Bool} (hs : Within N start) :
    Keeps N (withStatement g start async) := by
  refine .bind fun head _ => ?_
  extract_lets grouped plain
  have hgrouped : Keeps N grouped := by
    refine .bind fun _ _ => .bind fun items hi => .bind fun _ _ => .bind fun _ _ => ?_
    exact .bind fun _ _ => .bind fun _ _ => .pure hi
  have hplain : Keeps N plain := .bind fun items hi => .bind fun _ _ => .pure hi
  refine .bind fun items hi => .bind fun body hb => ?_
  exact rooted hs fun _ => ⟨rfl, hi.append hb⟩

instance keeps_exceptClause : Keeps N (exceptClause g) := by
  refine .bind fun start hs => .bind fun star _ => .bind fun t _ => .ite ?_ (.ite inferInstance ?_)
  · refine .bind fun _ _ => .bind fun body hb => ?_
    exact spanned hs fun span h => ⟨Node.within h hb, trivial⟩
  · refine .bind fun type htype => .bind fun _ _ => .bind fun _ _ => ?_
    extract_lets what ending
    have hending (name : Option Text) (_ : Within N name) : Keeps N (ending name) := by
      refine .bind fun _ _ => .bind fun body hb => ?_
      exact spanned hs fun span h => ⟨Node.within h ⟨htype, hb⟩, trivial⟩
    exact .ite (.bind hending) (.andThen (.pure trivial) hending)

instance keeps_finallyBlock : Keeps N (finallyBlock g) :=
  .bind fun _ _ => .bind fun _ _ => inferInstance

instance keeps_tryStatement : Keeps N (tryStatement g) := by
  refine .bind fun start hs => .bind fun _ _ => .bind fun body hb => .bind fun _ _ => ?_
  refine .bind fun _ _ => .ite ?_ (.bind fun handlers hh => ?_)
  · refine .bind fun final hf => ?_
    exact rooted hs fun _ =>
      ⟨rfl, hb.append (l := []) trivial |>.append (l := []) trivial |>.append hf⟩
  · refine .ite inferInstance (.bind fun orelse ho => .bind fun _ _ => ?_)
    have hhandlers := hh.map fun _ hp => hp.1
    have whole (final : List Node) (hf : Within N final) : Keeps N (do
        return Node.tryStmt (← spanFrom start) ((handlers.head?.map (·.2)).getD false) body
          (handlers.map (·.1)) orelse final) :=
      rooted hs fun _ => ⟨rfl, hb.append hhandlers |>.append ho |>.append hf⟩
    exact .ite (.bind whole) (.andThen (.pure trivial) whole)

theorem keeps_functionDef {start : Token} {async : Bool} {decorators : List Node}
    (hs : Within N start) (hd : Within N decorators) :
    Keeps N (functionDef g start async decorators) := by
  refine .bind fun head _ => .bind fun name _ => .bind fun _ _ => .bind fun params hp => ?_
  refine .bind fun _ _ => .bind fun returns hr => .bind fun _ _ => .bind fun body hb => ?_
  exact rooted hs fun _ => ⟨rfl, hp, hb.append hd |>.append hr.toList⟩

theorem keeps_classDef {decorators : List Node} (hd : Within N decorators) :
    Keeps N (classDef g decorators) := by
  refine .bind fun start hs => .bind fun name _ => .bind fun _ _ => ?_
  extract_lets ending
  have hending (p : List Node × List Node) (hp : Within N p) : Keeps N (ending p) := by
    refine .bind fun _ _ => .bind fun body hb => ?_
    exact rooted hs fun _ => ⟨rfl, hp.1.append hp.2 |>.append hb |>.append hd⟩
  have hnone : Within N (([], []) : List Node × List Node) := ⟨trivial, trivial⟩
  exact .ite (.bind hending) (.andThen (.pure hnone) hending)

instance keeps_definition : Keeps N (definition g) := by
  refine .andThen (.many (h := ?_)) fun decorators hd => .bind fun t ht => .ite ?_ (.ite ?_ ?_)
  · exact .bind fun _ _ => .bind fun e he => .bind fun _ _ => .pure he
  · exact keeps_classDef hd
  · exact .bind fun _ _ => keeps_functionDef ht hd
  · exact keeps_functionDef ht hd

instance keeps_asyncStatement : Keeps N (asyncStatement g) := by
  refine .bind fun t ht => .bind fun _ _ => .ite ?_ (.bind fun _ _ => .ite ?_ inferInstance)
  · exact .bind fun _ _ => keeps_forStatement ht
  · exact .bind fun _ _ => keeps_withStatement ht

/-! ## Matching -/

instance keeps_caseBlock : Keeps N (caseBlock g) := by
  refine .bind fun start _ => .bind fun p hp => .bind fun guard hguard => .bind fun _ _ => ?_
  refine .bind fun body hb => .pure ?_
  exact Node.within trivial ⟨hp, hguard.toList.append hb⟩

instance keeps_matchSubject : Keeps N (matchSubject g) := by
  refine .bind fun start hs => .bind fun first hfirst => .bind fun _ _ => .ite ?_ ?_
  · refine .andThen (keeps_moreItems hfirst) fun p hp => ?_
    exact rooted hs fun _ => ⟨rfl, hp.1⟩
  · split
    · infer_instance
    · exact .pure hfirst

instance keeps_matchStatement : Keeps N (matchStatement g) := by
  refine .bind fun start hs => .bind fun subject hsubject => .bind fun _ _ => .bind fun _ _ => ?_
  refine .bind fun _ _ => .bind fun _ _ => .bind fun cases hcases => .bind fun _ _ => ?_
  exact rooted hs fun _ => ⟨rfl, hsubject, hcases⟩

/-! ## Statements -/

instance keeps_statement : Keeps N (statement g) := by
  refine .bind fun t ht => ?_
  extract_lets one
  have hone (p : Parser Node) [Keeps N p] : Keeps N (one p) :=
    .bind fun n hn => .pure ⟨hn, trivial⟩
  have hwith : Keeps N (withStatement g t false) := keeps_withStatement ht
  have hfor : Keeps N (forStatement g t false) := keeps_forStatement ht
  infer_instance

instance keeps_wholeModule : Keeps N (wholeModule g) := by
  refine .bind fun body hb => .bind fun _ _ => .pure ?_
  exact Node.within trivial hb.flatten

/-! ## The whole grammar -/

theorem keeps_step : (k : Goal) → Keeps N (step g k)
  | .expression => keeps_expression
  | .starExpressions => keeps_starExpressions
  | .named => keeps_named
  | .starNamed => keeps_starNamed
  | .disjunction => keeps_disjunction
  | .inversion => keeps_inversion
  | .bitwiseOr => keeps_bitwiseOr
  | .factor => keeps_factor
  | .primary => keeps_primary
  | .statement => keeps_statement
  | .block => keeps_block
  | .elif => keeps_ifFrom
  | .pattern => keeps_pattern
  | .patterns => keeps_patterns

/-- Rules of any depth build nothing outside the lines. -/
instance keeps_upTo (n : Nat) : ∀ k, Keeps N (upTo n k) := by
  induction n with
  | zero => exact fun k => inferInstanceAs (Keeps N fail)
  | succ n ih =>
    -- The rules of one level refer to those of the level below, which `ih` speaks of.
    exact fun k => keeps_step k

end CodeReview.Source.Grammar
