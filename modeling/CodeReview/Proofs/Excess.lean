import CodeReview.Proofs.Cyclomatic
import CodeReview.Proofs.Lines
import CodeReview.Proofs.Loosening
import CodeReview.Rules.Standard

/-!
# Too many parameters and too many lines

Which functions and which sources are reported for being past a limit, as exact lists of places.
With limits that can be compared with, looking at a source never fails (`exists_complexityIssues`),
and what is reported at one node does not depend on the others.

Neither the analyzer nor the rule about parameters counts all that a function declares, and each
leaves out others. Lines are counted by the line ends between them, so that a source whose last line
is ended has one line too many.
-/

namespace CodeReview

open Source

/-! ## Limits that can be compared with -/

namespace Setting

variable {l : Setting Number}

/-- A number, or a yes or no that counts as one. -/
def Numeric (l : Setting Number) : Prop :=
  ∀ v, l = .other v → ∃ b, v = .bool b

/-- A count is above the value of a limit. -/
def PassedBy (l : Setting Number) (n : Int) : Prop :=
  ∃ x ∈ l.limit?, x < (((n : ℚ) : WithTop ℚ) : WithBot (WithTop ℚ))

instance (n : Int) : Decidable (l.PassedBy n) :=
  inferInstanceAs (Decidable (∃ x ∈ l.limit?, x < (((n : ℚ) : WithTop ℚ) : WithBot (WithTop ℚ))))

theorem numeric_proper (m : Number) : (proper m).Numeric :=
  nofun

theorem exceededBy_eq (h : l.Numeric) (n : Int) : l.exceededBy n = .ok (decide (l.PassedBy n)) := by
  have hlt : ∀ (m : Number) (l : Setting Number), l.limit? = m.value →
      m.lt n = decide (l.PassedBy n) := by
    intro m l hl
    rw [Bool.eq_iff_iff, Number.lt_int_iff, decide_eq_true_iff, PassedBy, hl]
    rfl
  cases l with
  | proper m => exact congrArg Except.ok (hlt m _ rfl)
  | other v =>
    -- A yes is compared as one and a no as zero.
    obtain ⟨b, rfl⟩ := h v rfl
    cases b with
    | true => exact congrArg Except.ok (hlt 1 _ rfl)
    | false => exact congrArg Except.ok (hlt 0 _ rfl)

theorem passedBy_int {m n : Int} : (proper (.int m)).PassedBy n ↔ m < n := by
  simp [PassedBy, limit?, Number.value]

theorem PassedBy.mono {n n' : Int} (h : l.PassedBy n) (hle : n ≤ n') : l.PassedBy n' := by
  obtain ⟨x, hx, hlt⟩ := h
  refine ⟨x, hx, hlt.trans_le ?_⟩
  rw [WithBot.coe_le_coe, WithTop.coe_le_coe]
  exact Int.cast_le.mpr hle

end Setting

/-- All limits can be compared with. -/
structure Settings.Numeric (s : Settings) : Prop where
  complexity : s.maxComplexity.Numeric
  nesting : s.maxNesting.Numeric
  functionLines : s.maxFunctionLines.Numeric
  parameters : s.maxParameters.Numeric
  lineLength : s.maxLineLength.Numeric
  fileLines : s.maxFileLines.Numeric

/-- Where an issue stands: its line and its column. -/
def Issue.place (i : Issue) : Int × Number :=
  (i.line, i.column)

namespace Source.Node

def place (n : Node) : Int × Number :=
  (n.line, n.span.col)

/-- The parameter list of a function. -/
def signature : Node → Node
  | functionDef _ _ _ params .. => params
  | n => n

end Source.Node

namespace Analysis

variable {s : Settings}

/-! ## What the analyzer reports of a type -/

/-- The issues of a type. -/
def ofType (type : Text) (issues : List Issue) : List Issue :=
  issues.filter fun i => i.type = type

section

variable {type : Text} {issues : List Issue}

theorem ofType_append (as bs : List Issue) :
    ofType type (as ++ bs) = ofType type as ++ ofType type bs :=
  List.filter_append ..

theorem ofType_eq_nil {types : List Text} (hissues : ∀ i ∈ issues, i.type ∈ types)
    (h : type ∉ types) : ofType type issues = [] := by
  rw [ofType, List.filter_eq_nil_iff]
  intro i hi htype
  rw [← of_decide_eq_true htype] at h
  exact h (hissues i hi)

theorem ofType_eq_self (h : ∀ i ∈ issues, i.type = type) : ofType type issues = issues := by
  rw [ofType, List.filter_eq_self]
  simpa using h

theorem forall_mem_when {c : Prop} [Decidable c] {i : Issue} {P : Issue → Prop} (h : P i) :
    ∀ j ∈ if c then [i] else [], P j := by
  split
  · exact List.forall_mem_singleton.mpr h
  · exact List.forall_mem_nil _

end

/-- At a function something is found for each limit that it is past, for the parameters last. -/
theorem functionIssues_functionDef (h : s.Numeric) (path : Text) (span : Span) (async : Bool)
    (name : Text) (params : Node) (body decorators : List Node) (returns : Option Node) :
    ∃ (others : List Issue) (about : Issue),
      functionIssues s path (.functionDef span async name params body decorators returns)
          = .ok (others
            ++ if decide (s.maxParameters.PassedBy (parameterNames params).length) then [about]
              else [])
        ∧ (∀ i ∈ others,
          i.type ∈ ["high_complexity".toList, "deep_nesting".toList, "long_function".toList])
        ∧ about.type = "too_many_params"
        ∧ about.place
          = Node.place (.functionDef span async name params body decorators returns) := by
  simp only [functionIssues, Setting.exceededBy_eq h.complexity, Setting.exceededBy_eq h.nesting,
    Setting.exceededBy_eq h.functionLines, Setting.exceededBy_eq h.parameters]
  -- No comparison fails, so what is found is written down as it is.
  refine ⟨_, _, rfl, ?_, rfl, rfl⟩
  simp only [List.forall_mem_append]
  refine ⟨⟨?_, ?_⟩, ?_⟩
  · exact forall_mem_when (by simp)
  · exact forall_mem_when (by simp)
  · exact forall_mem_when (by simp)

theorem type_of_mem_classIssues {path : Text} {n : Node} :
    ∀ i ∈ classIssues path n, i.type ∈ ["god_class".toList] := by
  unfold classIssues
  split
  · exact forall_mem_when (List.mem_singleton.mpr rfl)
  · exact List.forall_mem_nil _

/-- What is found at a node: the place of a function with too many parameters, and nothing about the
length of the source. -/
theorem exists_nodeIssues (h : s.Numeric) (path : Text) (n : Node) :
    ∃ issues, (do return (← functionIssues s path n) ++ classIssues path n) = .ok issues
      ∧ (ofType "too_many_params" issues).map Issue.place
        = (if n.functionName?.isSome
            && s.maxParameters.PassedBy (parameterNames n.signature).length then [n.place] else [])
      ∧ ofType "large_file" issues = [] := by
  cases n with
  | functionDef span async name params body decorators returns =>
    obtain ⟨others, about, hissues, hothers, htype, hplace⟩ :=
      functionIssues_functionDef h path span async name params body decorators returns
    rw [hissues]
    -- A function is no class, so nothing comes after its own issues.
    refine ⟨_, congrArg Except.ok (List.append_nil _), ?_, ?_⟩
    · rw [ofType_append, ofType_eq_nil hothers (by decide), List.nil_append,
        ofType_eq_self (forall_mem_when htype), apply_ite (List.map Issue.place),
        List.map_singleton, hplace]
      rfl
    · rw [ofType_append, ofType_eq_nil hothers (by decide), List.nil_append]
      exact ofType_eq_nil (forall_mem_when (List.mem_singleton.mpr htype)) (by decide)
  | classDef span name bases keywords body decorators =>
    refine ⟨classIssues path (.classDef span name bases keywords body decorators), rfl, ?_, ?_⟩
    · rw [ofType_eq_nil type_of_mem_classIssues (by decide)]
      rfl
    · exact ofType_eq_nil type_of_mem_classIssues (by decide)
  | _ => exact ⟨[], rfl, rfl, rfl⟩

/-- Places that are found one by one, at some of the members of a list. -/
theorem places_flatMap {α β : Type} {as : List α} {found : List β} {issues : β → List Issue}
    {test : α → Bool} {place : α → Int × Number}
    (h : List.Forall₂ (fun a b =>
      (issues b).map Issue.place = if test a then [place a] else []) as found) :
    (found.flatMap issues).map Issue.place = (as.filter test).map place := by
  induction h with
  | nil => rfl
  | @cons a b as found hissues _ ih =>
    rw [List.flatMap_cons, List.map_append, hissues, ih, List.filter_cons]
    split <;> rfl

theorem forall_mem_of_forall₂ {α β : Type} {P : β → Prop} {as : List α} {bs : List β}
    (h : List.Forall₂ (fun _ b => P b) as bs) : ∀ b ∈ bs, P b := by
  induction h with
  | nil => exact List.forall_mem_nil _
  | cons hb _ ih => exact List.forall_mem_cons.mpr ⟨hb, ih⟩

section

variable {limit : Setting Number}

theorem exists_lineIssues (h : limit.Numeric) (path : Text) (number : Nat) (line : Text) :
    ∃ issues, lineIssues limit path number line = .ok issues
      ∧ ∀ i ∈ issues, i.type ∈ ["long_line".toList] := by
  rw [lineIssues, Setting.exceededBy_eq h]
  simp only [bind, Except.bind]
  split
  · exact ⟨_, rfl, List.forall_mem_singleton.mpr (List.mem_singleton.mpr rfl)⟩
  · exact ⟨_, rfl, List.forall_mem_nil _⟩

theorem exists_lineLengthIssues (h : limit.Numeric) (subject : Subject) :
    ∃ issues, lineLengthIssues limit subject = .ok issues
      ∧ ∀ i ∈ issues, i.type ∈ ["long_line".toList] := by
  obtain ⟨found, hfound, htypes⟩ := Steps.exists_mapM_ok fun p (_ : p ∈ subject.numberedLines) =>
    exists_lineIssues h subject.path p.1 p.2
  refine ⟨found.flatten, ?_, ?_⟩
  · rw [lineLengthIssues, hfound]
    rfl
  · rw [List.forall_mem_flatten]
    exact forall_mem_of_forall₂ htypes

theorem exists_fileLengthIssues (h : limit.Numeric) (subject : Subject) :
    ∃ about : Issue, fileLengthIssues limit subject
        = .ok (if decide (limit.PassedBy (Text.lines subject.source).length) then [about] else [])
      ∧ about.type = "large_file" := by
  simp only [fileLengthIssues, Setting.exceededBy_eq h]
  exact ⟨_, (apply_ite Except.ok _ [_] []).symm, rfl⟩

end

theorem filter_functionNodes (test : Node → Bool) (tree : Node) :
    (functionNodes tree).filter test
      = tree.walk.filter fun n => n.functionName?.isSome && test n := by
  rw [functionNodes, List.filter_filter]
  simp only [Bool.and_comm]

/-- The analyzer reports the functions with too many parameters, in the order of a walk, and the
source if it has too many lines. -/
theorem exists_complexityIssues (h : s.Numeric) (subject : Subject) (tree : Node) :
    ∃ issues, complexityIssues s subject tree = .ok issues
      ∧ (ofType "too_many_params" issues).map Issue.place
        = ((functionNodes tree).filter fun f =>
            s.maxParameters.PassedBy (parameterNames f.signature).length).map Node.place
      ∧ (ofType "large_file" issues ≠ []
        ↔ s.maxFileLines.PassedBy (Text.lines subject.source).length) := by
  obtain ⟨nodes, hnodes, hfound⟩ := Steps.exists_mapM_ok
    fun n (_ : n ∈ tree.walk) => exists_nodeIssues h subject.path n
  obtain ⟨lines, hlines, hlineTypes⟩ := exists_lineLengthIssues h.lineLength subject
  obtain ⟨about, hfile, habout⟩ := exists_fileLengthIssues h.fileLines subject
  have hfileTypes : ∀ i ∈ if decide (s.maxFileLines.PassedBy (Text.lines subject.source).length)
      then [about] else [], i.type ∈ ["large_file".toList] :=
    forall_mem_when (List.mem_singleton.mpr habout)
  have hnone : ofType "large_file" nodes.flatten = [] := by
    rw [ofType, List.filter_flatten, List.flatten_eq_nil_iff, List.forall_mem_map]
    exact forall_mem_of_forall₂ (hfound.imp fun _ _ => And.right)
  refine ⟨nodes.flatten ++ lines
    ++ (if decide (s.maxFileLines.PassedBy (Text.lines subject.source).length) then [about]
      else []),
    ?_, ?_, ?_⟩
  · rw [complexityIssues, hnodes, hlines, hfile]
    rfl
  · rw [ofType_append, ofType_append, ofType_eq_nil hlineTypes (by decide), List.append_nil,
      ofType_eq_nil hfileTypes (by decide), List.append_nil, ofType, List.filter_flatten,
      ← List.flatMap_def, filter_functionNodes]
    exact places_flatMap (hfound.imp fun _ _ => And.left)
  · rw [ofType_append, ofType_append, hnone, ofType_eq_nil hlineTypes (by decide),
      List.append_nil, List.nil_append, ofType_eq_self (forall_mem_when habout)]
    simp

theorem run_complexity {source : Text} {tree : Node} (h : treeOf source = some tree) (path : Text) :
    (complexity s).run ⟨path, source⟩ none = complexityIssues s ⟨path, source⟩ tree := by
  have htree : Subject.tree? ⟨path, source⟩ none = some tree := h
  simp only [complexity, Analyzer.onTree, htree]

/-! ## Parameters -/

theorem map_filter_eq_iff {α β : Type} {p q : α → Bool} {as : List α}
    (h : ∀ a ∈ as, p a = true → q a = true) (f : α → β) :
    (as.filter p).map f = (as.filter q).map f ↔ ∀ a ∈ as, q a = true → p a = true := by
  constructor
  · intro heq
    -- One of the lists is a part of the other, so if they are as long they are the same.
    have hpart : as.filter p = (as.filter q).filter p := by
      rw [List.filter_filter]
      apply List.filter_congr
      intro a ha
      rw [Bool.eq_iff_iff, Bool.and_eq_true]
      exact ⟨fun hp => ⟨hp, h a ha hp⟩, And.left⟩
    have hlength := congrArg List.length heq
    rw [List.length_map, List.length_map, hpart] at hlength
    have hself := List.filter_eq_self.mp (List.filter_sublist.eq_of_length hlength)
    intro a ha hq
    exact hself a (List.mem_filter.mpr ⟨ha, hq⟩)
  · intro hback
    rw [List.filter_congr fun a ha => Bool.eq_iff_iff.mpr ⟨h a ha, hback a ha⟩]

/-- All parameters that a parameter list declares. -/
def declared : Node → List Node
  | .parameters positional regular rest keywordOnly _ keywordRest _ =>
    positional ++ regular ++ rest.toList ++ keywordOnly ++ keywordRest.toList
  | _ => []

/-- The parameters among them that can be given only by position. -/
def positionalOnly : Node → List Node
  | .parameters positional .. => positional
  | _ => []

/-- The analyzer counts all but those that can be given only by position. -/
theorem length_declared (params : Node) :
    (declared params).length = (positionalOnly params).length + (parameterNames params).length := by
  cases params with
  | parameters positional regular rest keywordOnly _ keywordRest =>
    cases rest <;> cases keywordRest
      <;> simp [declared, positionalOnly, parameterNames]
  | _ => rfl

theorem parameterCount_le (params : Node) :
    Rules.parameterCount params ≤ (parameterNames params).length := by
  cases params with
  | parameters positional regular rest keywordOnly _ keywordRest =>
    simp only [Rules.parameterCount, parameterNames, List.length_append, List.length_map]
    omega
  | _ => exact Nat.zero_le _

/-- The places of the functions in a tree that have more parameters than a limit, by some way of
counting them. -/
def excessive (limit : Setting Number) (count : Node → Nat) (tree : Node) : List (Int × Number) :=
  ((functionNodes tree).filter fun f => limit.PassedBy (count f.signature)).map Node.place

theorem excessive_eq_iff {limit : Setting Number} {count all : Node → Nat}
    (h : ∀ params, count params ≤ all params) (tree : Node) :
    excessive limit count tree = excessive limit all tree
      ↔ ∀ f ∈ functionNodes tree,
        limit.PassedBy (all f.signature) → limit.PassedBy (count f.signature) := by
  unfold excessive
  rw [map_filter_eq_iff]
  · simp only [decide_eq_true_iff]
  · intro f _ hcount
    rw [decide_eq_true_iff] at hcount ⊢
    exact hcount.mono (Int.ofNat_le.mpr (h f.signature))

/-- Looking at each node of a tree, and finding something at some of the functions. -/
theorem exists_functionPlaces {look : Node → Except Failure (Option Issue)} {test : Node → Bool}
    (h : ∀ n, ∃ found, look n = .ok found
      ∧ found.toList.map Issue.place
        = if n.functionName?.isSome && test n then [n.place] else []) (tree : Node) :
    ∃ found, (do return (← tree.walk.mapM look).filterMap id) = .ok found
      ∧ found.map Issue.place = ((functionNodes tree).filter test).map Node.place := by
  obtain ⟨found, hfound, hplaces⟩ := Steps.exists_mapM_ok fun n (_ : n ∈ tree.walk) => h n
  refine ⟨found.filterMap id, ?_, ?_⟩
  · rw [hfound]
    rfl
  · rw [List.filterMap_eq_flatMap_toList, filter_functionNodes]
    exact places_flatMap hplaces

/-- A check of functions reports those whose measure is past the limit. -/
theorem exists_functionChecker {limit : Setting Number} (h : limit.Numeric) {subject : Subject}
    {given : Option Node} {tree : Node} (htree : treeFor subject given = some tree)
    (type : Text) (severity : Severity) (measure : Node → Nat) (words : Nat → Text)
    (suggestion rule : Text) (rating : Rating) :
    ∃ found, Rules.functionChecker type severity measure limit words suggestion rule rating subject
        given = .ok found
      ∧ found.map Issue.place
        = ((functionNodes tree).filter fun f => limit.PassedBy (measure f)).map Node.place := by
  simp only [Rules.functionChecker, htree]
  refine exists_functionPlaces (fun n => ?_) tree
  cases n with
  | functionDef span async name params body decorators returns =>
    simp only [Setting.exceededBy_eq h, bind, Except.bind]
    split
    · next hpast => exact ⟨_, rfl, (if_pos hpast).symm⟩
    · next hpast => exact ⟨_, rfl, (if_neg hpast).symm⟩
  | _ => exact ⟨none, rfl, rfl⟩

/-- The rule about parameters, with a limit that it is given. -/
theorem exists_parameterRule {source : Text} {tree : Node} (htree : treeOf source = some tree)
    (path : Text) (m : Number) :
    ∃ r, (Rules.complexity [("max_parameters", .number m)]).get? "complexity/too-many-params"
        = some r
      ∧ ∃ found, r.check ⟨path, source⟩ none = .ok found
        ∧ found.map Issue.place = excessive (.proper m) Rules.parameterCount tree := by
  have hlimit : Rules.limit [("max_parameters", .number m)] "max_parameters" 5 = .proper m := by
    simp [Rules.limit, Entries.get?, Value.number?]
  have hsubject : treeFor ⟨path, source⟩ none = some tree := htree
  unfold Rules.complexity RuleSet.get?
  simp only [hlimit]
  -- The rule is the first of its set.
  refine ⟨_, List.find?_cons_of_pos (decide_eq_true rfl), ?_⟩
  simp only [Rule.check, if_pos]
  refine (exists_functionChecker (Setting.numeric_proper m) hsubject ..).imp
    fun found h => ⟨h.1, h.2.trans ?_⟩
  rw [excessive]
  apply congrArg (List.map Node.place)
  apply List.filter_congr
  intro f hf
  -- Only functions are left, and the measure of a function is that of its parameter list.
  have hname := (List.mem_filter.mp hf).2
  cases f with
  | functionDef => rfl
  | _ => cases hname

/-- In a source that can be parsed, the analyzer reports the functions whose parameters without
those that can be given only by position are too many, and the rule those with too many that can be
given by position and by name. So each of them reports the functions that declare too many just if
no function is past the limit only by what it leaves out, and the two report the same just if no
function is past it only by what the rule alone leaves out. -/
theorem parameters_reported {m : Number} (hs : s.Numeric) (hm : s.maxParameters = .proper m)
    {source : Text} {tree : Node} (htree : treeOf source = some tree) (path : Text) :
    ∃ (issues found : List Issue) (r : Rule),
      (complexity s).run ⟨path, source⟩ none = .ok issues
        ∧ (Rules.complexity [("max_parameters", .number m)]).get? "complexity/too-many-params"
          = some r
        ∧ r.check ⟨path, source⟩ none = .ok found
        ∧ (ofType "too_many_params" issues).map Issue.place
          = excessive (.proper m) (fun params => (parameterNames params).length) tree
        ∧ found.map Issue.place = excessive (.proper m) Rules.parameterCount tree
        ∧ ((ofType "too_many_params" issues).map Issue.place
            = excessive (.proper m) (fun params => (declared params).length) tree
          ↔ ∀ f ∈ functionNodes tree, (Setting.proper m).PassedBy (declared f.signature).length →
            (Setting.proper m).PassedBy (parameterNames f.signature).length)
        ∧ (found.map Issue.place
            = excessive (.proper m) (fun params => (declared params).length) tree
          ↔ ∀ f ∈ functionNodes tree, (Setting.proper m).PassedBy (declared f.signature).length →
            (Setting.proper m).PassedBy (Rules.parameterCount f.signature))
        ∧ (found.map Issue.place = (ofType "too_many_params" issues).map Issue.place
          ↔ ∀ f ∈ functionNodes tree,
            (Setting.proper m).PassedBy (parameterNames f.signature).length →
            (Setting.proper m).PassedBy (Rules.parameterCount f.signature)) := by
  obtain ⟨issues, hissues, hplaces, _⟩ := exists_complexityIssues hs ⟨path, source⟩ tree
  obtain ⟨r, hr, found, hfound, hrule⟩ := exists_parameterRule htree path m
  rw [← run_complexity htree] at hissues
  rw [hm] at hplaces
  have hnames : ∀ params, (parameterNames params).length ≤ (declared params).length := by
    intro params
    have hlength := length_declared params
    omega
  refine ⟨issues, found, r, hissues, hr, hfound, hplaces, hrule, ?_, ?_, ?_⟩
  · rw [hplaces]
    exact excessive_eq_iff hnames tree
  · rw [hrule]
    exact excessive_eq_iff (fun params => (parameterCount_le params).trans (hnames params)) tree
  · rw [hrule, hplaces]
    exact excessive_eq_iff parameterCount_le tree

/-- One parameter and one line are enough. -/
def tight : Settings :=
  { Settings.standard with maxParameters := 1, maxFileLines := 1 }

theorem tight_numeric : tight.Numeric where
  complexity := Setting.numeric_proper _
  nesting := Setting.numeric_proper _
  functionLines := Setting.numeric_proper _
  parameters := Setting.numeric_proper _
  lineLength := Setting.numeric_proper _
  fileLines := Setting.numeric_proper _

/-- The analyzer counts one parameter of the second function, and the rule counts one of each. -/
def signatures : Text :=
  "def f(a, *b): pass\ndef g(x, /, y): pass"

theorem lines_signatures :
    (treeOf signatures).map (fun tree =>
      ((excessive 1 (fun params => (parameterNames params).length) tree).map Prod.fst,
        (excessive 1 Rules.parameterCount tree).map Prod.fst,
        (excessive 1 (fun params => (declared params).length) tree).map Prod.fst))
      = some ([1], [], [1, 2]) := by
  decide +kernel

theorem parameters_reported_signatures :
    tight.Numeric
      ∧ ∃ tree issues found r, treeOf signatures = some tree
        ∧ (complexity tight).run ⟨"a.py", signatures⟩ none = .ok issues
        ∧ (Rules.complexity [("max_parameters", .number 1)]).get? "complexity/too-many-params"
          = some r
        ∧ r.check ⟨"a.py", signatures⟩ none = .ok found
        ∧ (ofType "too_many_params" issues).map (·.line) = [1]
        ∧ found.map (·.line) = []
        ∧ (excessive 1 (fun params => (declared params).length) tree).map Prod.fst = [1, 2] := by
  obtain ⟨tree, htree, hlines⟩ := Option.map_eq_some_iff.mp lines_signatures
  simp only [Prod.mk.injEq] at hlines
  obtain ⟨hnames, hcount, hdeclared⟩ := hlines
  obtain ⟨issues, found, r, hissues, hr, hfound, hplaces, hrule, _⟩ :=
    parameters_reported tight_numeric rfl htree "a.py"
  have hline : Issue.line = Prod.fst ∘ Issue.place := rfl
  refine ⟨tight_numeric, tree, issues, found, r, htree, hissues, hr, hfound, ?_, ?_, hdeclared⟩
  · rw [hline, ← List.map_map, hplaces]
    exact hnames
  · rw [hline, ← List.map_map, hrule]
    exact hcount

/-- Two parameters that can be given only by position. -/
def positional : Text :=
  "def f(a, b, /): pass"

/-- They are too many for a limit of one, and nothing is reported. -/
theorem positional_unreported :
    (treeOf positional).map (fun tree =>
        (excessive 1 (fun params => (declared params).length) tree).map Prod.fst) = some [1]
      ∧ ((complexity tight).run ⟨"app.py", positional⟩ none).toOption.map List.length = some 0 := by
  decide +kernel

/-! ## Lines -/

/-- The last line of a text, if there is any, is ended. -/
def Closed (t : Text) : Prop :=
  t = [] ∨ t.getLast? = some '\n'

instance : DecidablePred Closed :=
  fun t => inferInstanceAs (Decidable (t = [] ∨ t.getLast? = some '\n'))

/-- The number of lines of a text: those that are ended, and the last one if it is not. -/
def lineCount (t : Text) : Nat :=
  breaks t + if Closed t then 0 else 1

/-- What is after the last line end counts as a line, also if there is nothing. -/
theorem length_lines_eq (t : Text) :
    (Text.lines t).length = lineCount t + if Closed t then 1 else 0 := by
  rw [Text.length_lines, lineCount]
  split <;> rfl

theorem totalLines_measure (assertions : Bool) (source : Text) (tree : Option Node) :
    (measure assertions source tree).totalLines
      = .int (lineCount source + if Closed source then 1 else 0 : Nat) := by
  rw [← length_lines_eq]
  rfl

/-- A review and the analyzer take a text whose last line is ended to have one line more than it
has. So a review gives the number of lines just if the last one is not ended. In a source that can
be parsed, the analyzer reports that there are too many lines just if there are, unless the last
line is ended and one line more would be too many. -/
theorem lines_reported (source path : Text) :
    (∀ r : Reviewer, ∃ m, (r.reviewSource source path).result.metrics = some m
      ∧ m.totalLines = .int (lineCount source + if Closed source then 1 else 0 : Nat)
      ∧ (m.totalLines = .int (lineCount source) ↔ ¬ Closed source))
    ∧ ∀ {s : Settings} {tree : Node}, s.Numeric → treeOf source = some tree →
      ∃ issues, (complexity s).run ⟨path, source⟩ none = .ok issues
        ∧ (ofType "large_file" issues ≠ []
          ↔ s.maxFileLines.PassedBy (lineCount source + if Closed source then 1 else 0 : Nat))
        ∧ ((ofType "large_file" issues ≠ [] ↔ s.maxFileLines.PassedBy (lineCount source))
          ↔ (Closed source → s.maxFileLines.PassedBy (lineCount source + 1 : Nat) →
            s.maxFileLines.PassedBy (lineCount source))) := by
  constructor
  · intro r
    refine ⟨_, rfl, totalLines_measure false source (treeOf source), ?_⟩
    rw [totalLines_measure, Number.int.injEq, Nat.cast_inj]
    by_cases hclosed : Closed source
    · simp [hclosed]
    · simp [hclosed]
  · intro s tree hs htree
    obtain ⟨issues, hissues, _, hlarge⟩ := exists_complexityIssues hs ⟨path, source⟩ tree
    rw [← run_complexity htree] at hissues
    rw [length_lines_eq] at hlarge
    refine ⟨issues, hissues, hlarge, ?_⟩
    rw [hlarge]
    by_cases hclosed : Closed source
    · -- Too many lines are too many also with one more, so only the way back can fail.
      rw [if_pos hclosed]
      constructor
      · intro hsame _
        exact hsame.mp
      · intro hback
        exact ⟨hback hclosed, fun hpast => hpast.mono (Int.ofNat_le.mpr (Nat.le_succ _))⟩
    · rw [if_neg hclosed]
      exact iff_of_true Iff.rfl fun hclosed' => absurd hclosed' hclosed

/-- Two lines, both ended. -/
def twoLines : Text :=
  "x = 1\ny = 2\n"

theorem lines_reported_twoLines :
    tight.Numeric
      ∧ lineCount twoLines = 2
      ∧ (∃ m, (Reviewer.standard.reviewSource twoLines "a.py").result.metrics = some m
        ∧ m.totalLines = .int 3)
      ∧ ∃ tree issues, treeOf twoLines = some tree
        ∧ (complexity tight).run ⟨"a.py", twoLines⟩ none = .ok issues
        ∧ ofType "large_file" issues ≠ [] := by
  have hcount : lineCount twoLines = 2 := by decide
  have hclosed : Closed twoLines := by decide
  have hparses : (treeOf twoLines).isSome = true := by decide +kernel
  obtain ⟨tree, htree⟩ := Option.isSome_iff_exists.mp hparses
  obtain ⟨hmetrics, hlarge⟩ := lines_reported twoLines "a.py"
  obtain ⟨m, hm, htotal, _⟩ := hmetrics Reviewer.standard
  obtain ⟨issues, hissues, hreported, _⟩ := hlarge tight_numeric htree
  rw [hcount, if_pos hclosed] at htotal hreported
  refine ⟨tight_numeric, hcount, ⟨m, hm, htotal⟩, tree, issues, htree, hissues, ?_⟩
  exact hreported.mpr (Setting.passedBy_int.mpr (by decide))

/-- A line that is ended counts as two, and is reported to be too many for a limit of one. -/
theorem closed_line_reported :
    lineCount "x = 1\n" = 1
      ∧ (∃ m, (Reviewer.standard.reviewSource "x = 1\n" "<string>").result.metrics = some m
        ∧ m.totalLines = .int 2)
      ∧ ((complexity tight).run ⟨"<string>", "x = 1\n"⟩ none).toOption.map
          (List.map (·.type)) = some ["large_file".toList] :=
  ⟨by decide, ⟨_, rfl, rfl⟩, by decide +kernel⟩

end Analysis

end CodeReview
