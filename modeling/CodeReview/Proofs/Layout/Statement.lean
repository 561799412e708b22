import CodeReview.Proofs.Layout.Expression
import CodeReview.Source.Parse

/-!
# Layout in patterns and statements

Statements are where layout is taken: a line ends, a block is indented. It is always taken by its
kind and never kept, so the rules for statements are steady too. Main statement: alike tokens of two
texts are read as the same tree.
-/

namespace CodeReview.Source

namespace Grammar

open CodeReview.Source.Parser

variable {g : Grammar} [hg : ∀ k, Steady (g k)] [ha : Apart g]

/-! ## Patterns -/

instance refuses_takeNumber : Refuses (take fun t => match t.kind with
    | .number => true
    | _ => false) := by
  refine .take fun t ht => ?_
  obtain h | h | h | h := Token.kind_of_isLayout ht
  all_goals rw [h]

instance steady_takeNumber : Steady (take fun t => match t.kind with
    | .number => true
    | _ => false) := by
  refine .take fun t ht => ?_
  obtain h | h | h | h := Token.kind_of_isLayout ht
  all_goals rw [h]

instance refuses_signedNumber : Refuses signedNumber := by
  refine .peek fun start _ => ?_
  extract_lets number
  have hnumber : Refuses number := .bind
  exact .accept hnumber

instance steady_signedNumber : Steady signedNumber := by
  refine .peek refuses_signedNumber fun start => ?_
  extract_lets number
  have hnumber : Steady number := by
    refine .bind fun t => ?_
    split
    · infer_instance
    · exact .raiseAt
  infer_instance

instance refuses_complexNumber : Refuses complexNumber := .peek fun _ _ => .bind

instance steady_complexNumber : Steady complexNumber := by
  refine .peek refuses_complexNumber fun start => .bind fun left => ?_
  refine .look (fun t => ?_) fun t u _ ht hu => ?_
  · extract_lets op
    clear_value op
    cases op with
    | none => exact .pure
    | some op =>
      refine .drop (h := .peek (.peek fun _ _ => .bind) fun r => .bind fun right => ?_)
      refine .ite .fail ?_
      split
      · infer_instance
      · exact .fail
  · simp only [Token.isWord_of_isLayout ht, Token.isWord_of_isLayout hu]

instance refuses_dotted : Refuses dotted := .peek fun _ _ => .bind

instance steady_dotted : Steady dotted := .peek refuses_dotted fun _ => inferInstance

instance refuses_literalValue : Refuses (literalValue g) := by
  refine .peek fun t ht => ?_
  obtain h | h | h | h := Token.kind_of_isLayout ht
  all_goals
    rw [h]
    infer_instance

instance steady_literalValue : Steady (literalValue g) := by
  refine .peek refuses_literalValue fun t => ?_
  split
  all_goals infer_instance

instance steady_captureName : Steady captureName := .bind fun _ => .pure

instance steady_starPattern : Steady starPattern := .bind fun _ => inferInstance

instance steady_maybeStar : Steady (maybeStar g) := .bind fun _ => inferInstance

instance refuses_maybeStar : Refuses (maybeStar g) :=
  .sees (inferInstanceAs (Refuses (g .pattern)))

instance steady_patternItems {close : Text} : Steady (patternItems g close) :=
  .bind fun _ => inferInstance

instance steady_mappingItem : Steady (mappingItem g) := by
  refine .bind fun _ => .ite (.bind fun name => ?_) ?_
  · cases name with
    | some name => exact .pure
    | none => exact .fail
  · extract_lets ending
    have hending (key : Node) : Steady (ending key) := by
      simp -zeta only [ending]
      extract_lets entry
      have hentry (u : Unit) : Steady (entry u) := .bind fun _ => .bind fun _ => .pure
      clear_value entry
      split
      · exact .bind hentry
      · exact hentry ()
    refine .look (fun t => .ite (.bind hending) (.bind hending)) fun t u _ ht hu => ?_
    rw [Token.isName_of_isLayout ht, Token.isName_of_isLayout hu]

instance steady_mappingPattern : Steady (mappingPattern g) := by
  refine .bind fun start => ?_
  extract_lets ending
  have hending (items : List MappingItem) : Steady (ending items) := .bind fun _ => inferInstance
  clear_value ending
  infer_instance

instance steady_classItem : Steady (classItem g) := .bind fun _ => inferInstance

instance steady_classPattern {start : Token} {type : Node} :
    Steady (classPattern g start type) := by
  refine .bind fun _ => ?_
  extract_lets ending
  have hending (items : List (Option Text × Node)) : Steady (ending items) :=
    .bind fun _ => inferInstance
  clear_value ending
  infer_instance

instance refuses_closedPattern : Refuses (closedPattern g) := by
  refine .peek fun t ht => ?_
  obtain h | h | h | h := Token.kind_of_isLayout ht
  all_goals
    rw [h]
    exact .fail

instance steady_closedPattern : Steady (closedPattern g) := by
  refine .peek refuses_closedPattern fun t => ?_
  split
  · refine .ite inferInstance (.bind fun value => .bind fun _ => .ite inferInstance ?_)
    split
    all_goals infer_instance
  · refine .bind fun n => ?_
    split
    · exact .pure
    · exact .fail
  · infer_instance
  · infer_instance
  · refine .ite inferInstance (.ite (.drop (h := .bind fun p => .bind fun _ => ?_)) inferInstance)
    split
    all_goals infer_instance
  · exact .fail

instance refuses_alternatives : Refuses (alternatives g) := .peek fun _ _ => .bind

instance steady_alternatives : Steady (alternatives g) := by
  refine .peek refuses_alternatives fun start => .bind fun ps => ?_
  split
  all_goals infer_instance

instance refuses_pattern : Refuses (pattern g) := .peek fun _ _ => .bind

instance steady_pattern : Steady (pattern g) := .peek refuses_pattern fun _ => inferInstance

instance refuses_patterns : Refuses (patterns g) := .peek fun _ _ => .bind

instance steady_patterns : Steady (patterns g) := by
  refine .peek refuses_patterns fun start => .bind fun first => .bind fun p => ?_
  dsimp only
  split
  all_goals infer_instance

/-! ## Assignments -/

instance steady_assignedValue : Steady (assignedValue g) := .bind fun _ => inferInstance

instance refuses_assignedValue : Refuses (assignedValue g) :=
  .sees (inferInstanceAs (Refuses (g .starExpressions)))

omit ha in
theorem steady_assignmentChain (n : Nat) (targets : List Node) (value : Node) :
    Steady (assignmentChain g n targets value) := by
  induction n generalizing targets value with
  | zero => exact .fail
  | succ n ih =>
    refine .bind fun _ => .ite ?_ .pure
    split
    · exact .fail
    · exact .drop (h := .bind fun _ => ih ..)

instance steady_hintsGroup : Steady (hintsGroup g) := by
  unfold hintsGroup
  infer_instance

instance refuses_assignment : Refuses (assignment g) := .peek fun _ _ => .lookahead .bind

instance steady_assignment : Steady (assignment g) := by
  refine .peek refuses_assignment fun start => .bind fun whole => .bind fun first => ?_
  refine .peek (.peek fun t ht => .butWord ht (.butWord ht ?_)) fun t => ?_
  · have hnone : (augmentedOps.find? fun o => t.isWord o.1) = none :=
      List.find?_eq_none.mpr fun o _ => by simp [Token.isWord_of_isLayout ht]
    rw [hnone]
    exact .fail
  · refine .ite ?_ (.ite (.andThen ?_ fun p => inferInstance) ?_)
    · split
      · exact .fail
      · infer_instance
    · -- Both sides have as many tokens left, so they try as many links.
      constructor
      intro r r' s t hr hr' hst
      have hlength := hst.rest.length_eq
      show Outcome.Alike _ (assignmentChain g (s.rest.length + 1) [] first r s) _
      rw [hlength]
      exact (steady_assignmentChain _ [] first).agree hr hr' hst
    · split
      · split
        · exact .fail
        · infer_instance
      · exact .fail

instance refuses_expressionStatement : Refuses (expressionStatement g) :=
  .peek fun _ _ => .optional (.whenDiagnosing .bind)

instance steady_expressionStatement : Steady (expressionStatement g) := by
  refine .peek refuses_expressionStatement fun start => .bind fun found => ?_
  cases found with
  | some n => exact .pure
  | none => infer_instance

/-! ## Simple statements -/

instance refuses_importAlias {name : Parser Text} [Refuses name] : Refuses (importAlias name) :=
  .peek fun _ _ => .bind

instance steady_importAlias {name : Parser Text} [Steady name] [Refuses name] :
    Steady (importAlias name) := .peek refuses_importAlias fun _ => inferInstance

instance steady_dottedName : Steady dottedName := .bind fun _ => .pure

instance refuses_dottedName : Refuses dottedName := .bind

instance steady_importStatement : Steady importStatement := .bind fun _ => inferInstance

instance steady_importLevel : Steady importLevel := .bind fun _ => .pure

instance steady_importTargets : Steady importTargets := by
  refine .peek (.peek fun t ht => .butWord ht (.butWord ht .bind)) fun t => inferInstance

instance steady_importFromStatement : Steady importFromStatement := by
  refine .bind fun start => .bind fun level => .bind fun _ => ?_
  infer_instance

instance steady_deleteStatement : Steady (deleteStatement g) := by
  refine .bind fun start => ?_
  extract_lets item
  have hitem : Steady item := by
    refine .bind fun value => ?_
    split
    · exact .pure
    · exact .fail
  refine .andThen (.optional (h := ?_)) fun targets => ?_
  · refine .bind fun first => .bind fun p => .look (fun t => inferInstance) fun t u htu ht hu => ?_
    rw [htu.isNewline, Token.isWord_of_isLayout ht, Token.isWord_of_isLayout hu]
  · cases targets with
    | some ts => infer_instance
    | none => infer_instance

instance refuses_simpleStatement : Refuses (simpleStatement g) := by
  refine .peek fun t ht => ?_
  simp only [Token.isWord_of_isLayout ht, Bool.or_self, Bool.false_eq_true, if_false]
  infer_instance

instance steady_simpleStatement : Steady (simpleStatement g) := by
  refine .peek refuses_simpleStatement fun t => ?_
  extract_lets only
  have honly (make : Span → Node) : Steady (only make) := Steady.drop
  have hraise : Steady (do
      match ← optional (g .expression) with
      | none => return Node.raiseStmt (← spanFrom t) none none
      | some e =>
        let cause ← optional do
          let _ ← word "from"
          g .expression
        return .raiseStmt (← spanFrom t) (some e) cause) := by
    refine .bind fun exception => ?_
    cases exception with
    | none => infer_instance
    | some e => infer_instance
  infer_instance

instance steady_simpleStatements : Steady (simpleStatements g) := .bind fun _ => inferInstance

instance refuses_simpleStatements : Refuses (simpleStatements g) := .bind

/-! ## Blocks -/

instance steady_takeIndent {α : Type} {p : Parser α} [Steady p] :
    Steady (take Token.isIndent >>= fun _ => p) := .takeDrop fun _ _ h => h.isIndent

instance steady_takeDedent {α : Type} {p : Parser α} [Steady p] :
    Steady (take Token.isDedent >>= fun _ => p) := .takeDrop fun _ _ h => h.isDedent

instance steady_takeFinish {α : Type} {p : Parser α} [Steady p] :
    Steady (take Token.isFinish >>= fun _ => p) := .takeDrop fun _ _ h => h.isFinish

instance steady_headColon : Steady headColon := .bind fun _ => .bind fun _ => .pure

instance steady_blockAfter {what : Text} {head : Token} : Steady (blockAfter g what head) :=
  .bind fun _ => hg .block

instance steady_block : Steady (block g) := by
  refine .look (fun t => inferInstance) fun t u htu _ _ => ?_
  rw [htu.isNewline]

instance steady_elseBlock : Steady (elseBlock g) := .bind fun _ => inferInstance

instance steady_optionalElse : Steady (optionalElse g) := .bind fun _ => inferInstance

/-! ## Compound statements -/

instance steady_ifFrom {w : Text} : Steady (ifFrom g w) := .bind fun _ => inferInstance

instance refuses_ifFrom {w : Text} : Refuses (ifFrom g w) := .bind

instance steady_whileStatement : Steady (whileStatement g) := .bind fun _ => inferInstance

instance steady_forStatement {start : Token} {async : Bool} :
    Steady (forStatement g start async) := by
  refine .bind fun head => .bind fun target => ?_
  cases target with
  | none => infer_instance
  | some target => infer_instance

instance steady_withItem : Steady (withItem g) := by
  refine .bind fun context => .andThen (.optional (h := .bind fun _ => ?_)) fun target => ?_
  · refine .peek (.peek fun t ht => ?_) fun t => ?_
    all_goals extract_lets ending
    · exact .butWord ht .bind
    · have hending (target : Option Node) : Steady (ending target) := by
        cases target with
        | some n => exact .bind fun _ => .ite .pure .fail
        | none => exact .fail
      clear_value ending
      infer_instance
  · infer_instance

instance steady_withStatement {start : Token} {async : Bool} :
    Steady (withStatement g start async) := by
  refine .bind fun head => ?_
  extract_lets grouped plain
  have hgrouped : Steady grouped := .bind fun _ => inferInstance
  have hplain : Steady plain := .bind fun _ => inferInstance
  infer_instance

instance steady_exceptClause : Steady (exceptClause g) := by
  refine .bind fun start => .bind fun star => .look (fun t => ?_) fun t u htu ht hu => ?_
  · refine .ite inferInstance (.ite inferInstance ?_)
    exact .bind fun type => .bind fun _ => .bind fun _ => inferInstance
  · simp only [htu.isNewline, Token.isWord_of_isLayout ht, Token.isWord_of_isLayout hu]

instance steady_finallyBlock : Steady (finallyBlock g) := .bind fun _ => inferInstance

instance steady_tryStatement : Steady (tryStatement g) := by
  refine .bind fun start => .bind fun _ => .bind fun body => .bind fun _ => ?_
  infer_instance

instance steady_functionDef {start : Token} {async : Bool} {decorators : List Node} :
    Steady (functionDef g start async decorators) :=
  .bind fun _ => .bind fun _ => .bind fun _ => .bind fun _ => inferInstance

instance refuses_functionDef {start : Token} {async : Bool} {decorators : List Node} :
    Refuses (functionDef g start async decorators) := .bind

instance steady_classDef {decorators : List Node} : Steady (classDef g decorators) :=
  .bind fun _ => inferInstance

instance refuses_definition : Refuses (definition g) :=
  .many (.peek fun _ ht => .butWord ht (.butWord ht inferInstance))

instance steady_definition : Steady (definition g) := by
  refine .bind fun decorators => ?_
  exact .peek (.peek fun t ht => .butWord ht (.butWord ht inferInstance)) fun t => inferInstance

instance steady_asyncThen {w : Text} : Steady (seesPair (·.isWord "async") (·.isWord w)) :=
  steady_seesPair (fun _ ht => Token.isWord_of_isLayout ht _)
    fun _ ht => Token.isWord_of_isLayout ht w

instance steady_asyncStatement : Steady (asyncStatement g) := by
  refine .peek (.peek fun t _ => ?_) fun t => inferInstance
  have hasync (t : Token) (ht : t.isLayout = true) : t.isWord "async" = false :=
    Token.isWord_of_isLayout ht _
  exact refuses_seesPair hasync (refuses_seesPair hasync refuses_definition)

/-! ## Matching -/

instance steady_takeNamed {w : Text} : Steady (take (·.isNamed w)) :=
  .take fun _ ht => Token.isNamed_of_isLayout ht w

instance steady_caseBlock : Steady (caseBlock g) := .bind fun _ => inferInstance

instance steady_matchSubject : Steady (matchSubject g) := by
  refine .peek (.peek fun _ _ => .bind) fun start => .bind fun first => .bind fun _ => ?_
  refine .ite inferInstance ?_
  split
  · exact .fail
  · exact .pure

instance steady_matchStatement : Steady (matchStatement g) :=
  .bind fun _ => .bind fun _ => .bind fun _ => .bind fun _ => inferInstance

/-! ## Statements -/

instance refuses_statement : Refuses (statement g) := by
  refine .peek fun t ht => ?_
  simp only [Token.isWord_of_isLayout ht, Token.isNamed_of_isLayout ht, Bool.or_self,
    Bool.false_eq_true, if_false]
  infer_instance

instance steady_statement : Steady (statement g) := by
  refine .peek refuses_statement fun t => ?_
  extract_lets one
  have hone (p : Parser Node) [Steady p] : Steady (one p) := .bind fun _ => .pure
  infer_instance

instance steady_wholeModule : Steady (wholeModule g) := .bind fun _ => inferInstance

/-! ## The whole grammar -/

theorem steady_step : (k : Goal) → Steady (step g k)
  | .expression => steady_expression
  | .starExpressions => steady_starExpressions
  | .named => steady_named
  | .starNamed => steady_starNamed
  | .disjunction => steady_disjunction
  | .inversion => steady_inversion
  | .bitwiseOr => steady_bitwiseOr
  | .factor => steady_factor
  | .primary => steady_primary
  | .statement => steady_statement
  | .block => steady_block
  | .elif => steady_ifFrom
  | .pattern => steady_pattern
  | .patterns => steady_patterns

omit hg in
theorem refuses_step : (k : Goal) → k ≠ .block → Refuses (step g k)
  | .expression, _ => refuses_expression
  | .starExpressions, _ => refuses_starExpressions
  | .named, _ => refuses_named
  | .starNamed, _ => refuses_starNamed
  | .disjunction, _ => refuses_disjunction
  | .inversion, _ => refuses_inversion
  | .bitwiseOr, _ => refuses_bitwiseOr
  | .factor, _ => refuses_factor
  | .primary, _ => refuses_primary
  | .statement, _ => refuses_statement
  | .block, h => absurd rfl h
  | .elif, _ => refuses_ifFrom
  | .pattern, _ => refuses_pattern
  | .patterns, _ => refuses_patterns

/-- Rules of any depth do not look at the places of layout. -/
theorem blind_upTo (n : Nat) : (∀ k, Steady (upTo n k)) ∧ Apart (upTo n) := by
  induction n with
  | zero =>
    exact ⟨fun k => inferInstanceAs (Steady fail), ⟨fun k _ => inferInstanceAs (Refuses fail)⟩⟩
  | succ n ih =>
    -- The rules of one level refer to those of the level below.
    obtain ⟨hsteady, hapart⟩ := ih
    exact ⟨fun k => steady_step k, ⟨fun k hk => refuses_step k hk⟩⟩

end Grammar

theorem Token.size_of_alike {tokens tokens' : List Token}
    (h : List.Forall₂ Token.Alike tokens tokens') : size tokens = size tokens' := by
  suffices hfrom : ∀ n, tokens.foldl (fun n t => n + t.text.length + 1) n
      = tokens'.foldl (fun n t => n + t.text.length + 1) n from hfrom 0
  induction h with
  | nil => exact fun n => rfl
  | cons htu _ ih =>
    intro n
    rw [List.foldl_cons, List.foldl_cons, htu.text]
    exact ih _

/-- Tokens that are read as a tree end with a token for their end, not with a fault. -/
theorem exists_finish {source : Text} {tree : Node} (e : parseTree source = .ok tree) :
    ∃ t ∈ Token.scan source, t.isFinish = true := by
  obtain ⟨hsteady, hapart⟩ := Grammar.blind_upTo (Token.size (Token.scan source) + 8)
  unfold parseTree at e
  dsimp only at e
  generalize Token.scan source = tokens at e hsteady hapart ⊢
  generalize Grammar.upTo (Token.size tokens + 8) = g at e hsteady hapart
  simp only [Parser.run] at e
  split at e
  · next tree s htree =>
    simp only [Grammar.wholeModule, Bind.bind] at htree
    split at htree
    · next body s' hbody =>
      -- the statements leave a last part of the tokens, and that starts with the token for the end
      have hsuffix : s'.rest <:+ tokens := Parser.Steady.suffix inferInstance rfl hbody
      split at htree
      · next t s'' hend =>
        obtain ⟨u, hu, hfinish⟩ := Parser.head?_of_take hend
        exact ⟨u, hsuffix.subset (List.mem_of_head? hu), hfinish⟩
      all_goals cases htree
    all_goals cases htree
  · cases e
  · cases e
  · split at e
    all_goals cases e

/-- Texts whose tokens are alike are read as the same tree. -/
theorem parseTree_of_alike {source source' : Text} {tree : Node}
    (h : List.Forall₂ Token.Alike (Token.scan source) (Token.scan source'))
    (e : parseTree source = .ok tree) : parseTree source' = .ok tree := by
  unfold parseTree at e ⊢
  dsimp only at e ⊢
  rw [← Token.size_of_alike h]
  obtain ⟨hsteady, hapart⟩ := Grammar.blind_upTo (Token.size (Token.scan source) + 8)
  exact Parser.run_of_alike h e

end CodeReview.Source
