import CodeReview.Proofs.Layout.Basic
import CodeReview.Source.Grammar.Expression

/-!
# Layout in expressions

Every rule for expressions is steady, and so is every rule that it is put together from. A rule that
keeps the next token for the place of its node is shown to refuse layout as well.
-/

namespace CodeReview.Source.Grammar

open CodeReview.Source.Parser

/-- Nothing but a block starts with layout. -/
class Apart (g : Grammar) : Prop where
  refuses : ∀ k, k ≠ .block → Refuses (g k)

variable {g : Grammar} [hg : ∀ k, Steady (g k)] [ha : Apart g]

instance : Refuses (g .expression) := ha.refuses _ (by decide)
instance : Refuses (g .starExpressions) := ha.refuses _ (by decide)
instance : Refuses (g .named) := ha.refuses _ (by decide)
instance : Refuses (g .starNamed) := ha.refuses _ (by decide)
instance : Refuses (g .primary) := ha.refuses _ (by decide)
instance : Refuses (g .pattern) := ha.refuses _ (by decide)

/-! ## What is common to the rules -/

/-- The place of a node ends where the last token other than layout does. -/
instance steady_spanFrom {start : Token} : Steady (spanFrom start) := by
  constructor
  intro r r' s t _ _ hst
  simp only [spanFrom, hst.endLine]
  exact .ok hst List.suffix_rfl

instance steady_takeName : Steady (take Token.isName) := .take fun _ => Token.isName_of_isLayout

instance refuses_takeName : Refuses (take Token.isName) := .take fun _ => Token.isName_of_isLayout

instance steady_takeString : Steady (take Token.isString) :=
  .take fun _ => Token.isString_of_isLayout

instance steady_identifier : Steady identifier := .bind fun _ => .pure

instance refuses_identifier : Refuses identifier := .bind

/-- Two tests of which layout passes neither. -/
theorem steady_seesPair {first second : Token → Bool}
    (hfirst : ∀ t, t.isLayout = true → first t = false)
    (hsecond : ∀ t, t.isLayout = true → second t = false) : Steady (seesPair first second) := by
  have := Steady.take hfirst
  have := Steady.take hsecond
  exact .lookahead

theorem refuses_seesPair {first second : Token → Bool}
    (hfirst : ∀ t, t.isLayout = true → first t = false) {β : Type} {f : Bool → Parser β}
    (h : Refuses (f false)) : Refuses (seesPair first second >>= f) := by
  have := Refuses.take hfirst
  exact .lookahead h

instance steady_nameThen {w : Text} : Steady (seesPair Token.isName (·.isWord w)) :=
  steady_seesPair (fun _ => Token.isName_of_isLayout) fun _ ht => Token.isWord_of_isLayout ht w

instance steady_moreItems {item : Parser Node} [Steady item] {first : Node} :
    Steady (moreItems item first) := .bind fun _ => .bind fun _ => .pure

/-! ## Strings -/

instance steady_liftFault {α : Type} {x : Except Fault α} : Steady (liftFault x) := by
  cases x with
  | ok a => exact .pure
  | error f => exact .raise

/-- The expression of a field is read from tokens of its own. -/
instance steady_parseField {t : Template} {expression after : Text} :
    Steady (parseField g t expression after) := by
  refine .ite .raise ?_
  extract_lets left before lines lastLine blank broken indent col tokens
  split
  · exact .pure
  · exact .raiseAt

instance steady_readShown {expression after : Text} : Steady (readShown expression after) := by
  unfold readShown
  split
  · exact .ite .raise .pure
  · exact .pure

instance steady_readConversion {after : Text} : Steady (readConversion after) := by
  unfold readConversion
  split
  · exact .raise
  · exact .ite .pure .raise
  · exact .pure

instance steady_readFormat {t : Template} {inner : Text → Parser (Pieces × Text)}
    [∀ rest, Steady (inner rest)] {after : Text} : Steady (readFormat t inner after) := by
  unfold readFormat
  split
  · exact .ite .raise (.bind fun _ => .pure)
  · exact .pure

instance steady_readField {t : Template} {inner : Text → Parser (Pieces × Text)}
    [∀ rest, Steady (inner rest)] {body : Text} : Steady (readField g t inner body) := by
  refine .bind fun field => .ite .raise ?_
  refine .bind fun value => .bind fun shown => .bind fun conversion => .bind fun format => ?_
  dsimp only
  split
  · exact .pure
  · exact .raise

instance steady_readPieces {t : Template} {n level : Nat} {pieces : Pieces} {rest : Text} :
    Steady (readPieces g t n level pieces rest) := by
  induction n generalizing level pieces rest with
  | zero => exact .pure
  | succ n ih =>
    refine .bind fun found => .bind fun literal => .ite ih ?_
    dsimp only
    split
    · exact .ite .raise (.bind fun r => ih)
    · exact .pure

instance steady_addLiteral {span : Span} {marked : Bool} {pieces : Pieces}
    {literal : Token × Literal.Quoted} : Steady (addLiteral g span marked pieces literal) :=
  .ite (.bind fun _ => .ite .pure .raise) (.bind fun _ => .pure)

instance steady_strings : Steady (strings g) := by
  refine .bind fun first => .bind fun more => .bind fun span => ?_
  extract_lets literals marked
  refine .ite (.andThen (.mapM (fun l => ?_) literals) fun parts => .pure) ?_
  · exact .ite .raise (.ite .raiseAt inferInstance)
  · exact .andThen (.foldlM (fun _ _ => inferInstance) literals _) fun pieces => .ite .pure .pure

/-! ## Parameters -/

instance refuses_parameter {annotated starred : Bool} : Refuses (parameter g annotated starred) :=
  .peek fun _ _ => .bind

instance steady_parameter {annotated starred : Bool} :
    Steady (parameter g annotated starred) := by
  refine .peek refuses_parameter fun start => .bind fun name => ?_
  have whole (hint : Option Node) :
      Steady (do return Node.parameter (← spanFrom start) name hint) := inferInstance
  refine .ite (.bind fun _ => .ite ?_ (.bind whole)) (.bind whole)
  refine .peek (.peek fun t ht => ?_) fun t => .ite (.drop (h := ?_)) (.bind whole)
  · rw [Token.isWord_of_isLayout ht, Bool.and_false]
    exact .bind
  · exact .bind fun value => .bind fun span => .bind whole

instance refuses_parameterItem {annotated : Bool} : Refuses (parameterItem g annotated) :=
  .peek fun _ ht => .butWord ht (.butWord ht (.butWord ht .bind))

instance steady_parameterItem {annotated : Bool} : Steady (parameterItem g annotated) := by
  refine .peek refuses_parameterItem fun t => ?_
  refine .ite inferInstance (.ite inferInstance (.ite (.drop (h := ?_)) inferInstance))
  refine .look (fun u => inferInstance) fun u v _ hu hv => ?_
  rw [Token.isName_of_isLayout hu, Token.isName_of_isLayout hv]

instance steady_delimitedItem {annotated : Bool} : Steady (delimitedItem g annotated) :=
  .bind fun _ => inferInstance

instance steady_parameters {annotated : Bool} : Steady (parameters g annotated) := by
  refine .bind fun items => ?_
  dsimp only
  split
  · infer_instance
  · infer_instance

/-! ## Clauses of comprehensions -/

instance steady_loopTarget : Steady (loopTarget g) := by
  refine .peek (.peek fun start _ => ?_) fun start => ?_
  all_goals
    extract_lets item
    have hrefuses : Refuses item := .peek fun t ht => .butWord ht .bind
  · exact .bind
  · have hitem : Steady item := by
      refine .peek hrefuses fun t => ?_
      refine .ite (.drop (h := .bind fun value => ?_)) (.bind fun value => ?_)
      · split
        · infer_instance
        · exact .fail
      · split
        · exact .pure
        · exact .fail
    infer_instance

instance steady_forClause : Steady (forClause g) := by
  refine .bind fun async => .bind fun _ => .bind fun target => ?_
  cases target with
  | none => infer_instance
  | some target => infer_instance

instance steady_forClauses : Steady (forClauses g) := .many1

instance steady_seesFor : Steady seesFor := .seesAny

/-! ## Bracketed forms -/

instance steady_yieldExpression : Steady (yieldExpression g) :=
  .bind fun _ => inferInstance

instance steady_parenthesized : Steady (parenthesized g) := by
  refine .bind fun start => .bind fun _ => .ite inferInstance (.bind fun _ => .ite inferInstance ?_)
  refine .bind fun _ => .bind fun first => .bind fun _ => .ite inferInstance ?_
  refine .bind fun _ => .ite (.bind fun _ => ?_) (.bind fun _ => ?_)
  · split
    · exact .fail
    · infer_instance
  · split
    · infer_instance
    · exact .pure

instance steady_bracketed : Steady (bracketed g) := by
  refine .bind fun start => .bind fun _ => .ite inferInstance (.bind fun first => ?_)
  refine .bind fun _ => .ite (.bind fun _ => ?_) inferInstance
  split
  · exact .fail
  · infer_instance

instance steady_keyValue : Steady (keyValue g) := .bind fun _ => inferInstance

instance steady_dictEntries {start : Token} {first : Option Node × Node} :
    Steady (dictEntries g start first) := by
  refine .bind fun entries => .bind fun closed => ?_
  cases closed with
  | none => infer_instance
  | some _ => infer_instance

instance steady_braced : Steady (braced g) := by
  refine .bind fun start => .bind fun _ => .ite inferInstance (.bind fun _ => .ite inferInstance ?_)
  refine .bind fun naming => .bind fun first => .look (fun t => .ite ?_ ?_) fun t u _ ht hu => ?_
  · extract_lets entry
    have hentry (v : Unit) : Steady (entry v) := inferInstanceAs (Steady (next >>= fun _ => _))
    split
    · exact .bind fun u => hentry u
    · exact .bind fun u => hentry u
    · exact hentry ()
  · refine .bind fun _ => .ite (.bind fun _ => ?_) inferInstance
    split
    · exact .fail
    · infer_instance
  · rw [Token.isWord_of_isLayout ht, Token.isWord_of_isLayout hu]
    rfl

/-! ## Atoms -/

instance refuses_atom : Refuses (atom g) := by
  refine .peek fun t ht => ?_
  obtain h | h | h | h := Token.kind_of_isLayout ht
  all_goals
    rw [h]
    exact .fail

instance steady_atom : Steady (atom g) := by
  refine .peek refuses_atom fun t => ?_
  split
  · infer_instance
  · refine .drop (h := ?_)
    split
    · infer_instance
    · exact .raiseAt
  · infer_instance
  · extract_lets constant
    have hconstant (c : Constant) : Steady (constant c) := Steady.drop
    infer_instance
  · infer_instance
  · exact .fail

/-! ## Calls -/

instance refuses_argument {stage : ArgumentStage} : Refuses (argument g stage) := by
  refine .peek fun t ht => .butWord ht (.butWord ht ?_)
  refine refuses_seesPair (fun _ => Token.isName_of_isLayout) ?_
  cases stage with
  | anything => exact refuses_seesPair (fun _ => Token.isName_of_isLayout) .bind
  | keywords => exact .fail
  | unpacking => exact .fail

instance steady_argument {stage : ArgumentStage} : Steady (argument g stage) := by
  refine .peek refuses_argument fun t => .ite inferInstance (.ite ?_ ?_)
  · split
    · exact .fail
    · infer_instance
  · refine .bind fun _ => .ite inferInstance ?_
    split
    · extract_lets ending
      have hending (value : Node) : Steady (ending value) :=
        .bind fun _ => .ite .fail .pure
      exact .bind fun _ => .ite (.bind hending) (.bind hending)
    · exact .fail

instance refuses_argumentItems : Refuses (argumentItems g) := by
  unfold argumentItems
  extract_lets item
  have hitem (stage : ArgumentStage) : Refuses (item stage) := by
    have : Refuses
        (do whenDiagnosing (diagnoseKeyword g); fail : Parser (Argument × ArgumentStage)) :=
      .whenDiagnosing .fail
    exact .orElse
  exact .bind

instance steady_argumentItems : Steady (argumentItems g) := by
  unfold argumentItems
  extract_lets item
  have hitem (stage : ArgumentStage) : Steady (item stage) := Steady.orElse
  exact .bind fun _ => .bind fun _ => .pure

instance steady_arguments {generator : Bool} : Steady (arguments g generator) := by
  refine .bind fun opening => .bind fun _ => .ite .pure ?_
  refine .peek (.peek fun start _ => .whenDiagnosing .bind) fun start => ?_
  refine .bind fun _ => .bind fun items => ?_
  extract_lets alone positional keywords ending
  have hending (looped : Option Node) : Steady (ending looped) := by
    cases looped with
    | some n => exact .pure
    | none =>
      refine .bind fun closed => ?_
      cases closed with
      | some _ => exact .pure
      | none => infer_instance
  clear_value alone ending
  cases alone with
  | none => exact .bind hending
  | some e => exact .bind fun _ => .ite (.bind hending) (.bind hending)

/-! ## Items -/

instance refuses_slice : Refuses (slice g) := by
  refine .peek fun t ht => ?_
  extract_lets bound ending
  exact .butWord ht .bind

instance steady_slice : Steady (slice g) := by
  refine .peek refuses_slice fun start => ?_
  extract_lets bound ending
  have hbound : Steady bound := .bind fun _ => .ite .pure inferInstance
  have hending (lower : Option Node) : Steady (ending lower) := by
    simp -zeta only [ending]
    extract_lets colon
    have hcolon (u : Unit) : Steady (colon u) := by
      refine .bind fun _ => .ite (.bind fun upper => .bind fun _ => inferInstance) ?_
      cases lower with
      | some e => exact .pure
      | none => exact .fail
    clear_value colon
    cases lower with
    | none => exact hcolon ()
    | some e =>
      refine .bind fun _ => .ite ?_ (hcolon ())
      split
      · exact .bind fun u => hcolon u
      · exact hcolon ()
  exact .ite (.bind hending) (.bind hending)

instance refuses_indexItem : Refuses (indexItem g) := .peek fun _ ht => .butWord ht inferInstance

instance steady_indexItem : Steady (indexItem g) :=
  .peek refuses_indexItem fun _ => inferInstance

instance steady_indices : Steady (indices g) := by
  refine .peek (.peek fun _ _ => .bind) fun start => .bind fun first => .bind fun p => ?_
  refine .ite inferInstance ?_
  split
  · infer_instance
  · exact .pure

/-! ## Attributes, calls and items -/

instance refuses_primary : Refuses (primary g) := .peek fun _ _ => .bind

instance steady_primary : Steady (primary g) := by
  refine .peek refuses_primary fun start => .bind fun first => ?_
  have (acc : Node) : Steady (do
      let t ← peek
      if t.isWord "." then
        let _ ← next
        let name ← identifier
        return Node.attr (← spanFrom start) acc name .load
      else if t.isWord "(" then
        let (args, keywords) ← arguments g true
        return .call (← spanFrom start) acc args keywords
      else if t.isWord "[" then
        let _ ← next
        let index ← indices g
        let _ ← word "]"
        return .subscript (← spanFrom start) acc index .load
      else fail) := by
    refine .peek (.peek fun t ht => ?_) fun t => inferInstance
    exact .butWord ht (.butWord ht (.butWord ht .fail))
  exact .loop

/-! ## Operators -/

instance refuses_awaited : Refuses (awaited g) := .peek fun _ ht => .butWord ht inferInstance

instance steady_awaited : Steady (awaited g) := .peek refuses_awaited fun _ => inferInstance

instance refuses_power : Refuses (power g) := .peek fun _ _ => .bind

instance steady_power : Steady (power g) := by
  refine .peek refuses_power fun start => .bind fun base => .bind fun exponent => ?_
  cases exponent with
  | none => exact .pure
  | some e => infer_instance

instance refuses_factor : Refuses (factor g) := by
  refine .peek fun t ht => ?_
  exact .butWord ht (.butWord ht (.butWord ht inferInstance))

instance steady_factor : Steady (factor g) := by
  refine .peek refuses_factor fun t => ?_
  extract_lets unary
  have hunary (op : UnaryOp) : Steady (unary op) := Steady.drop
  infer_instance

instance refuses_leftToRight {ops : List (Text × BinaryOp)} {operand : Parser Node}
    [Refuses operand] : Refuses (leftToRight ops operand) := .peek fun _ _ => .bind

instance steady_leftToRight {ops : List (Text × BinaryOp)} {operand : Parser Node}
    [Steady operand] [Refuses operand] : Steady (leftToRight ops operand) := by
  refine .peek refuses_leftToRight fun start => .bind fun first => ?_
  have (acc : Node) : Steady (do
      let t ← peek
      match ops.find? fun o => t.isWord o.1 with
      | some (_, op) =>
        let _ ← next
        let right ← operand
        return Node.binary (← spanFrom start) acc op right
      | none => fail) := by
    refine .peek (.peek fun t ht => ?_) fun t => ?_
    · have hnone : (ops.find? fun o => t.isWord o.1) = none :=
        List.find?_eq_none.mpr fun o _ => by simp [Token.isWord_of_isLayout ht]
      rw [hnone]
      exact .fail
    · split
      · infer_instance
      · exact .fail
  exact .loop

instance steady_term : Steady (term g) := steady_leftToRight
instance refuses_term : Refuses (term g) := refuses_leftToRight

instance steady_sum : Steady (sum g) := steady_leftToRight
instance refuses_sum : Refuses (sum g) := refuses_leftToRight

instance steady_shift : Steady (shift g) := steady_leftToRight
instance refuses_shift : Refuses (shift g) := refuses_leftToRight

instance steady_bitwiseOr : Steady (bitwiseOr g) := steady_leftToRight
instance refuses_bitwiseOr : Refuses (bitwiseOr g) := refuses_leftToRight

/-- The token that may be an operator is taken before it is looked at. -/
instance steady_compareOp : Steady compareOp := by
  refine ⟨.next fun t u htu => ?_⟩
  extract_lets table
  have hrule (t : Token) : Steady (match table.find? fun o => t.isWord o.1 with
      | some (_, op) => return op
      | none =>
        if t.isWord "not" then do
          let _ ← word "in"
          return CompareOp.notIn
        else if t.isWord "is" then do
          if ← accept "not" then return .isNot else return .is
        else fail) := by
    split
    · exact .pure
    · infer_instance
  cases hl : t.isLayout with
  | false =>
    obtain rfl := htu.same hl
    exact (hrule t).agree
  | true =>
    have hu : u.isLayout = true := htu.isLayout.symm.trans hl
    have hnone (t : Token) (ht : t.isLayout = true) :
        (table.find? fun o => t.isWord o.1) = none :=
      List.find?_eq_none.mpr fun o _ => by simp [Token.isWord_of_isLayout ht]
    rw [hnone t hl, hnone u hu]
    simp only [Token.isWord_of_isLayout hl, Token.isWord_of_isLayout hu]
    exact Steady.fail.agree

instance refuses_comparison : Refuses (comparison g) := .peek fun _ _ => .bind

instance steady_comparison : Steady (comparison g) :=
  .peek refuses_comparison fun _ => inferInstance

instance refuses_inversion : Refuses (inversion g) := .peek fun _ ht => .butWord ht inferInstance

instance steady_inversion : Steady (inversion g) := .peek refuses_inversion fun _ => inferInstance

instance refuses_joinedBy {w : Text} {op : BoolOp} {operand : Parser Node} [Refuses operand] :
    Refuses (joinedBy w op operand) := .peek fun _ _ => .bind

instance steady_joinedBy {w : Text} {op : BoolOp} {operand : Parser Node} [Steady operand]
    [Refuses operand] : Steady (joinedBy w op operand) :=
  .peek refuses_joinedBy fun _ => inferInstance

instance steady_conjunction : Steady (conjunction g) := steady_joinedBy
instance refuses_conjunction : Refuses (conjunction g) := refuses_joinedBy

instance steady_disjunction : Steady (disjunction g) := steady_joinedBy
instance refuses_disjunction : Refuses (disjunction g) := refuses_joinedBy

/-! ## Whole expressions -/

instance steady_lambda : Steady (lambda g) := .bind fun _ => inferInstance

instance refuses_expression : Refuses (expression g) := by
  refine .peek fun start hs => .here fun before => .butWord hs ?_
  extract_lets ending
  have hending (wordLike : Bool) : Refuses (ending wordLike) := .bind
  simp only [Token.isNamed_of_isLayout hs, Bool.or_self, Bool.false_eq_true, if_false]
  exact refuses_seesPair (fun _ => Token.isName_of_isLayout) (hending false)

instance steady_expression : Steady (expression g) := by
  refine .peek refuses_expression fun start => ⟨.here fun before before' => ?_⟩
  refine .ite steady_lambda.agree ?_
  extract_lets ending ending'
  have hending (wordLike : Bool) : Agree (ending wordLike) (ending' wordLike) := by
    refine .bind steady_disjunction.agree fun first => .bind (.whenDiagnosing ..) fun _ => ?_
    refine (Steady.bind fun conditional => ?_).agree
    cases conditional with
    | none => exact .pure
    | some c => infer_instance
  exact .ite (.bind Steady.pure.agree hending)
    (.bind (steady_seesPair (fun _ => Token.isName_of_isLayout)
      fun _ => Token.isString_of_isLayout).agree hending)

instance refuses_named : Refuses (named g) := by
  refine .peek fun start hs => ?_
  exact refuses_seesPair (fun _ => Token.isName_of_isLayout) .bind

instance steady_named : Steady (named g) :=
  .peek refuses_named fun _ => inferInstance

instance refuses_starOr {item : Parser Node} [Refuses item] : Refuses (starOr g item) :=
  .peek fun _ ht => .butWord ht inferInstance

instance steady_starOr {item : Parser Node} [Steady item] [Refuses item] :
    Steady (starOr g item) := .peek refuses_starOr fun _ => inferInstance

instance steady_starNamed : Steady (starNamed g) := steady_starOr
instance refuses_starNamed : Refuses (starNamed g) := refuses_starOr

instance refuses_starExpressions : Refuses (starExpressions g) := .peek fun _ _ => .bind

instance steady_starExpressions : Steady (starExpressions g) :=
  .peek refuses_starExpressions fun _ => inferInstance

end CodeReview.Source.Grammar
