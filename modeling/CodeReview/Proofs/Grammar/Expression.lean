import CodeReview.Proofs.Grammar.Formatted
import CodeReview.Source.Grammar.Expression

/-!
# Places in expressions

Each rule is looked at in the order of its steps. Where a rule goes on in one way after several
choices, what it goes on with is named first and shown to keep within the lines for whatever the
choice has given.
-/

namespace CodeReview.Source.Grammar

open Placed
open CodeReview.Source.Parser

instance : Placed CompareOp := anywhere CompareOp
instance : Placed ArgumentStage := anywhere ArgumentStage

instance : Placed Argument where
  Within N a := match a with
    | .positional n | .keyword n | .unpacked n => Within N n

variable {g : Grammar} {N : Nat} [hg : ∀ k, Keeps N (g k)]

/-! ## Clauses of comprehensions -/

instance keeps_loopTarget : Keeps N (loopTarget g) := by
  refine .bind fun start hs => ?_
  extract_lets item
  have hitem : Keeps N item := by
    refine .bind fun t ht => .ite ?_ ?_
    · refine .bind fun _ _ => .bind fun value hv => ?_
      split
      · next v hsome =>
        exact rooted ht fun _ => ⟨rfl, within_asTarget hsome hv, trivial⟩
      · infer_instance
    · refine .bind fun value hv => ?_
      split
      · next v hsome => exact .pure (within_asTarget hsome hv)
      · infer_instance
  refine .bind fun first hfirst => .andThen (keeps_moreItems hfirst) fun p hp => ?_
  exact .ite (rooted hs fun _ => ⟨rfl, hp.1⟩) (.pure hfirst)

instance keeps_forClause : Keeps N (forClause g) := by
  refine .bind fun async _ => .bind fun _ _ => .andThen (.optional (h := ?_)) fun target ht => ?_
  · exact .bind fun t ht => .bind fun _ _ => .pure ht
  · cases target with
    | none => infer_instance
    | some target =>
      refine .bind fun iter hi => .bind fun conditions hc => .pure ?_
      exact Node.within trivial ⟨ht, hi, hc⟩

instance keeps_forClauses : Keeps N (forClauses g) := Keeps.many1

instance keeps_seesFor : Keeps N seesFor := Keeps.seesAny

/-! ## Bracketed forms -/

instance keeps_yieldExpression : Keeps N (yieldExpression g) := by
  refine .bind fun start hs => .bind fun _ _ => .ite ?_ ?_
  · exact .bind fun value hv => rooted hs fun _ => ⟨rfl, hv, trivial⟩
  · exact .bind fun value hv => rooted hs fun _ => ⟨rfl, hv.toList⟩

instance keeps_parenthesized : Keeps N (parenthesized g) := by
  refine .bind fun start hs => .bind fun _ _ => .ite ?_ (.bind fun _ _ => .ite ?_ ?_)
  · exact rooted hs fun _ => ⟨rfl, trivial⟩
  · exact .bind fun value hv => .bind fun _ _ => .pure hv
  refine .bind fun _ _ => .bind fun first hfirst => .bind fun _ _ => .ite ?_ ?_
  · refine .andThen (keeps_moreItems hfirst) fun p hp => .bind fun _ _ => ?_
    exact rooted hs fun _ => ⟨rfl, hp.1⟩
  refine .bind fun _ _ => .ite (.bind fun _ _ => ?_) (.bind fun _ _ => ?_)
  · split
    · infer_instance
    · refine .bind fun clauses hc => .bind fun _ _ => ?_
      exact rooted hs fun _ => ⟨rfl, hfirst, hc⟩
  · split
    · infer_instance
    · exact .pure hfirst

instance keeps_bracketed : Keeps N (bracketed g) := by
  refine .bind fun start hs => .bind fun _ _ => .ite ?_ ?_
  · exact rooted hs fun _ => ⟨rfl, trivial⟩
  refine .bind fun first hfirst => .bind fun _ _ => .ite (.bind fun _ _ => ?_) (.bind fun _ _ => ?_)
  · split
    · infer_instance
    · refine .bind fun clauses hc => .bind fun _ _ => ?_
      exact rooted hs fun _ => ⟨rfl, hfirst, hc⟩
  · refine .andThen (keeps_moreItems hfirst) fun p hp => .bind fun _ _ => ?_
    exact rooted hs fun _ => ⟨rfl, hp.1⟩

instance keeps_keyValue : Keeps N (keyValue g) := by
  refine .bind fun _ _ => .ite ?_ ?_
  · exact .bind fun value hv => .pure ⟨trivial, hv⟩
  · exact .bind fun key hk => .bind fun _ _ => .bind fun value hv => .pure ⟨hk, hv⟩

theorem keeps_dictEntries {start : Token} {first : Option Node × Node} (hs : Within N start)
    (hfirst : Within N first) : Keeps N (dictEntries g start first) := by
  refine .andThen (.loop ?_ fun acc hacc => ?_) fun entries hentries => .bind fun closed _ => ?_
  · exact ⟨hfirst, trivial⟩
  · exact .bind fun _ _ => .bind fun entry hentry => .pure ⟨hentry, hacc⟩
  cases closed with
  | none => infer_instance
  | some _ =>
    refine rooted hs fun _ => ⟨rfl, .append ?_ ?_⟩
    · exact (hentries.reverse.map fun _ he => he.1).filterMap fun _ => id
    · exact hentries.reverse.map fun _ he => he.2

instance keeps_braced : Keeps N (braced g) := by
  refine .bind fun start hs => .bind fun _ _ => .ite ?_ (.bind fun _ _ => .ite ?_ ?_)
  · exact rooted hs fun _ => ⟨rfl, trivial⟩
  · refine .bind fun first hfirst => .bind fun _ _ => .ite inferInstance ?_
    exact keeps_dictEntries hs hfirst
  refine .bind fun naming _ => .bind fun first hfirst => .bind fun t ht => .ite ?_ ?_
  · -- what follows once the first part is a key
    extract_lets entry
    have hentry (u : Unit) : Keeps N (entry u) := by
      refine .bind fun _ _ => .bind fun _ _ => .bind fun value hv => .bind fun _ _ => .ite ?_ ?_
      · refine .bind fun clauses hc => .bind fun _ _ => ?_
        exact rooted hs fun _ => ⟨rfl, hfirst, hv, hc⟩
      · exact keeps_dictEntries hs ⟨hfirst, hv⟩
    split
    · exact .bind fun u _ => hentry u
    · exact .bind fun u _ => hentry u
    · exact hentry ()
  · refine .bind fun _ _ => .ite (.bind fun _ _ => ?_) (.bind fun _ _ => ?_)
    · split
      · infer_instance
      · refine .bind fun clauses hc => .bind fun _ _ => ?_
        exact rooted hs fun _ => ⟨rfl, hfirst, hc⟩
    · refine .andThen (keeps_moreItems hfirst) fun p hp => .bind fun _ _ => ?_
      exact rooted hs fun _ => ⟨rfl, hp.1⟩

/-! ## Atoms -/

instance keeps_atom : Keeps N (atom g) := by
  refine .bind fun t ht => ?_
  split
  · exact .bind fun id _ => rooted ht fun _ => ⟨rfl, trivial⟩
  · refine .bind fun _ _ => ?_
    split
    · exact rooted ht fun _ => ⟨rfl, trivial⟩
    · infer_instance
  · infer_instance
  · extract_lets constant
    have hconstant (c : Constant) : Keeps N (constant c) :=
      .bind fun _ _ => rooted ht fun _ => ⟨rfl, trivial⟩
    infer_instance
  · refine .ite inferInstance (.ite inferInstance (.ite inferInstance (.ite ?_ inferInstance)))
    exact .bind fun _ _ => rooted ht fun _ => ⟨rfl, trivial⟩
  · infer_instance

/-! ## Calls -/

instance keeps_argument {stage : ArgumentStage} : Keeps N (argument g stage) := by
  refine .bind fun t ht => .ite ?_ (.ite ?_ (.bind fun _ _ => .ite ?_ ?_))
  · refine .bind fun _ _ => .bind fun value hv => ?_
    exact spanned ht fun span h => ⟨Node.within h ⟨hv, trivial⟩, trivial⟩
  · split
    · infer_instance
    · refine .bind fun _ _ => .bind fun value hv => ?_
      exact spanned ht fun span h => ⟨Node.within h ⟨hv, trivial⟩, trivial⟩
  · refine .bind fun _ _ => .bind fun name _ => .bind fun _ _ => .bind fun value hv => ?_
    exact spanned ht fun span h => ⟨Node.within h ⟨hv, trivial⟩, trivial⟩
  · split
    · extract_lets ending
      have hending (value : Node) (hv : Within N value) : Keeps N (ending value) :=
        .bind fun _ _ => .ite inferInstance (.pure ⟨hv, trivial⟩)
      exact .bind fun _ _ => .ite (.bind hending) (.bind hending)
    · infer_instance

instance keeps_argumentItems : Keeps N (argumentItems g) := by
  unfold argumentItems
  extract_lets item
  have hitem (stage : ArgumentStage) : Keeps N (item stage) :=
    inferInstanceAs (Keeps N (orElse _ _))
  refine .bind fun first hfirst => ?_
  refine .andThen (.loop ?_ fun acc hacc => ?_) fun found hfound => ?_
  · exact ⟨⟨hfirst.1, trivial⟩, trivial⟩
  · refine .bind fun _ _ => .bind fun a ha => ?_
    exact .pure ⟨⟨ha.1, hacc.1⟩, trivial⟩
  · exact .pure hfound.1.reverse

instance keeps_arguments {generator : Bool} : Keeps N (arguments g generator) := by
  refine .bind fun opening ho => .bind fun _ _ => .ite (.pure ⟨trivial, trivial⟩) ?_
  refine .bind fun start hs => .bind fun _ _ => .bind fun items hitems => ?_
  extract_lets alone positional keywords ending
  have halone : Within N alone := by
    simp only [alone]
    split
    · trivial
    · exact hitems.1
    · trivial
  have hpositional : Within N positional := hitems.filterMap fun a ha => by
    cases a with
    | positional n => exact ha
    | keyword n => trivial
    | unpacked n => trivial
  have hkeywords : Within N keywords := hitems.filterMap fun a ha => by
    cases a with
    | positional n => trivial
    | keyword n => exact ha
    | unpacked n => exact ha
  have hending (looped : Option Node) (h : Within N looped) : Keeps N (ending looped) := by
    cases looped with
    | some n => exact .pure ⟨⟨h, trivial⟩, trivial⟩
    | none =>
      refine .bind fun closed _ => ?_
      cases closed with
      | some _ => exact .pure ⟨hpositional, hkeywords⟩
      | none => infer_instance
  clear_value alone ending
  cases alone with
  | none => exact .andThen (.pure trivial) hending
  | some e =>
    refine .bind fun _ _ => .ite (.andThen (.optional (h := ?_)) hending) ?_
    · refine .bind fun clauses hc => .bind fun _ _ => ?_
      exact rooted ho fun _ => ⟨rfl, halone, hc⟩
    · exact .andThen (.pure trivial) hending

/-! ## Items -/

instance keeps_slice : Keeps N (slice g) := by
  refine .bind fun start hs => ?_
  extract_lets bound ending
  have hbound : Keeps N bound :=
    .bind fun _ _ => .ite (.pure trivial) inferInstance
  have hending (lower : Option Node) (hlower : Within N lower) : Keeps N (ending lower) := by
    simp -zeta only [ending]
    extract_lets colon
    have hcolon (u : Unit) : Keeps N (colon u) := by
      refine .bind fun _ _ => .ite (.bind fun upper hupper => .bind fun _ _ => ?_) ?_
      · have whole (step : Option Node) (hstep : Within N step) :
            Keeps N (do return Node.slice (← spanFrom start) lower upper step) :=
          rooted hs fun _ => ⟨rfl, hlower.toList.append hupper.toList |>.append hstep.toList⟩
        exact .ite (.bind whole) (.andThen (.pure trivial) whole)
      · cases lower with
        | some e => exact .pure hlower
        | none => infer_instance
    clear_value colon
    cases lower with
    | none => exact hcolon ()
    | some e =>
      refine .bind fun _ _ => .ite ?_ (hcolon ())
      split
      · exact .bind fun u _ => hcolon u
      · exact hcolon ()
  exact .ite (.andThen (.pure trivial) hending) (.bind hending)

instance keeps_indexItem : Keeps N (indexItem g) := by
  refine .bind fun t ht => .ite ?_ inferInstance
  refine .bind fun _ _ => .bind fun value hv => ?_
  exact rooted ht fun _ => ⟨rfl, hv, trivial⟩

instance keeps_indices : Keeps N (indices g) := by
  refine .bind fun start hs => .bind fun first hfirst => ?_
  refine .andThen (keeps_moreItems hfirst) fun p hp => ?_
  have whole : Keeps N (do return Node.tuple (← spanFrom start) p.1 .load) :=
    rooted hs fun _ => ⟨rfl, hp.1⟩
  refine .ite whole ?_
  split
  · exact whole
  · exact .pure hfirst

/-! ## Attributes, calls and items -/

instance keeps_primary : Keeps N (primary g) := by
  refine .bind fun start hs => .bind fun first hfirst => .loop hfirst fun acc hacc => ?_
  refine .bind fun t ht => .ite ?_ (.ite ?_ (.ite ?_ inferInstance))
  · refine .bind fun _ _ => .bind fun name _ => ?_
    exact rooted hs fun _ => ⟨rfl, hacc, trivial⟩
  · refine .bind fun p hp => ?_
    exact rooted hs fun _ => ⟨rfl, hacc, hp.1.append hp.2⟩
  · refine .bind fun _ _ => .bind fun index hi => .bind fun _ _ => ?_
    exact rooted hs fun _ => ⟨rfl, hacc, hi, trivial⟩

/-! ## Operators -/

instance keeps_awaited : Keeps N (awaited g) := by
  refine .bind fun t ht => .ite ?_ inferInstance
  refine .bind fun _ _ => .bind fun value hv => ?_
  exact rooted ht fun _ => ⟨rfl, hv, trivial⟩

instance keeps_power : Keeps N (power g) := by
  refine .bind fun start hs => .bind fun base hb => .bind fun exponent he => ?_
  cases exponent with
  | none => exact .pure hb
  | some e => exact rooted hs fun _ => ⟨rfl, hb, he, trivial⟩

instance keeps_factor : Keeps N (factor g) := by
  refine .bind fun t ht => ?_
  extract_lets unary
  have hunary (op : UnaryOp) : Keeps N (unary op) := by
    refine .bind fun _ _ => .bind fun operand ho => ?_
    exact rooted ht fun _ => ⟨rfl, ho, trivial⟩
  infer_instance

instance keeps_leftToRight {ops : List (Text × BinaryOp)} {operand : Parser Node}
    [Keeps N operand] : Keeps N (leftToRight ops operand) := by
  refine .bind fun start hs => .bind fun first hfirst => .loop hfirst fun acc hacc => ?_
  refine .bind fun t ht => ?_
  split
  · refine .bind fun _ _ => .bind fun right hr => ?_
    exact rooted hs fun _ => ⟨rfl, hacc, hr, trivial⟩
  · infer_instance

instance keeps_term : Keeps N (term g) := keeps_leftToRight

instance keeps_sum : Keeps N (sum g) := keeps_leftToRight

instance keeps_shift : Keeps N (shift g) := keeps_leftToRight

instance keeps_bitwiseOr : Keeps N (bitwiseOr g) := keeps_leftToRight

instance keeps_compareOp : Keeps N compareOp := by
  refine .bind fun t _ => ?_
  extract_lets table
  split
  · exact .pure trivial
  · refine .ite ?_ (.ite ?_ inferInstance)
    · exact .bind fun _ _ => .pure trivial
    · exact .bind fun _ _ => .ite (.pure trivial) (.pure trivial)

instance keeps_comparison : Keeps N (comparison g) := by
  refine .bind fun start hs => .bind fun left hl => .andThen (.many (h := ?_)) fun found hf => ?_
  · exact .bind fun op _ => .bind fun right hr => .pure ⟨trivial, hr⟩
  · refine .ite (.pure hl) ?_
    exact rooted hs fun _ => ⟨rfl, hl, hf.map fun _ hp => hp.2⟩

instance keeps_inversion : Keeps N (inversion g) := by
  refine .bind fun t ht => .ite ?_ inferInstance
  refine .bind fun _ _ => .bind fun operand ho => ?_
  exact rooted ht fun _ => ⟨rfl, ho, trivial⟩

instance keeps_joinedBy {w : Text} {op : BoolOp} {operand : Parser Node} [Keeps N operand] :
    Keeps N (joinedBy w op operand) := by
  refine .bind fun start hs => .bind fun first hfirst => .bind fun others ho => ?_
  exact .ite (.pure hfirst) (rooted hs fun _ => ⟨rfl, hfirst, ho⟩)

instance keeps_conjunction : Keeps N (conjunction g) := keeps_joinedBy

instance keeps_disjunction : Keeps N (disjunction g) := keeps_joinedBy

/-! ## Whole expressions -/

instance keeps_lambda : Keeps N (lambda g) := by
  refine .bind fun start hs => .bind fun params hp => .bind fun _ _ => .bind fun body hb => ?_
  exact rooted hs fun _ => ⟨rfl, hp, hb, trivial⟩

instance keeps_expression : Keeps N (expression g) := by
  refine .bind fun start hs => .bind fun before _ => .ite inferInstance ?_
  extract_lets ending
  have hending (wordLike : Bool) : Keeps N (ending wordLike) := by
    refine .bind fun first hfirst => .bind fun _ _ => .andThen (.optional (h := ?_)) fun c hc => ?_
    · refine .bind fun _ _ => .bind fun test ht => .bind fun _ _ => ?_
      exact .bind fun other ho => .pure ⟨ht, ho⟩
    · cases c with
      | none => exact .pure hfirst
      | some p => exact rooted hs fun _ => ⟨rfl, hc.1, hfirst, hc.2, trivial⟩
  exact .ite (.andThen (.pure trivial) fun w _ => hending w) (.bind fun w _ => hending w)

instance keeps_named : Keeps N (named g) := by
  refine .bind fun start hs => .bind fun _ _ => .ite ?_ ?_
  · refine .bind fun id _ => .andThen (keeps_spanFrom hs) fun place hplace => ?_
    extract_lets target
    have ht : Within N target := Node.within hplace trivial
    refine .bind fun _ _ => .bind fun value hv => ?_
    exact rooted hs fun _ => ⟨rfl, ht, hv, trivial⟩
  · exact .bind fun e he => .bind fun _ _ => .bind fun _ _ => .ite inferInstance (.pure he)

instance keeps_starOr {item : Parser Node} [Keeps N item] : Keeps N (starOr g item) := by
  refine .bind fun t ht => .ite ?_ inferInstance
  refine .bind fun _ _ => .bind fun value hv => ?_
  exact rooted ht fun _ => ⟨rfl, hv, trivial⟩

instance keeps_starNamed : Keeps N (starNamed g) := keeps_starOr

instance keeps_starExpressions : Keeps N (starExpressions g) := by
  refine .bind fun start hs => .bind fun first hfirst => ?_
  refine .andThen (keeps_moreItems hfirst) fun p hp => ?_
  exact .ite (rooted hs fun _ => ⟨rfl, hp.1⟩) (.pure hfirst)

end CodeReview.Source.Grammar
