import CodeReview.Proofs.Excess

/-!
# Smells by type

Each check of the analyzer of smells reports issues of types that no other check reports. So the
issues of a type, among all that are found in a source, are what one check finds.
-/

namespace CodeReview.Analysis

open Source

/-- All issues are of the given types. -/
def AllOf (types : List Text) (issues : List Issue) : Prop :=
  ∀ i ∈ issues, i.type ∈ types

namespace AllOf

variable {types : List Text} {type : Text} {i : Issue} {as bs : List Issue}

theorem none : AllOf types [] :=
  List.forall_mem_nil _

theorem one (h : i.type ∈ types) : AllOf types [i] :=
  List.forall_mem_singleton.mpr h

theorem ite {c : Prop} [Decidable c] (ha : AllOf types as) (hb : AllOf types bs) :
    AllOf types (if c then as else bs) := by
  split
  · exact ha
  · exact hb

theorem append (ha : AllOf types as) (hb : AllOf types bs) : AllOf types (as ++ bs) :=
  List.forall_mem_append.mpr ⟨ha, hb⟩

theorem flatMap {α : Type} {look : α → List Issue} (h : ∀ a, AllOf types (look a))
    (places : List α) : AllOf types (places.flatMap look) :=
  List.forall_mem_flatMap.mpr fun a _ => h a

/-- Issues that are all of one type are the issues of this type. -/
theorem ofType_eq (h : AllOf [type] as) : ofType type as = as :=
  ofType_eq_self fun i hi => List.mem_singleton.mp (h i hi)

theorem ofType_eq_nil (h : AllOf types as) (type : Text) (hother : type ∉ types) :
    ofType type as = [] :=
  Analysis.ofType_eq_nil h hother

/-- Issues of other types make no difference, after the rest or before it. -/
theorem ofType_append_left (h : AllOf types bs) (type : Text) (hother : type ∉ types)
    (as : List Issue) : ofType type (as ++ bs) = ofType type as := by
  rw [ofType_append, h.ofType_eq_nil type hother, List.append_nil]

theorem ofType_append_right (h : AllOf types as) (type : Text) (hother : type ∉ types)
    (bs : List Issue) : ofType type (as ++ bs) = ofType type bs := by
  rw [ofType_append, h.ofType_eq_nil type hother, List.nil_append]

end AllOf

variable (path : Text) (subject : Subject) (node tree : Node) (line : Text) (number : Nat)

theorem allOf_docstringIssues :
    AllOf ["missing_docstring".toList] (docstringIssues path node) := by
  unfold docstringIssues
  split
  · exact .ite .none (.one List.mem_cons_self)
  · exact .ite .none (.one List.mem_cons_self)
  · exact .none

theorem allOf_numberIssues {parent : Option Node} {issues : List Issue}
    (h : numberIssues subject parent node = .ok issues) :
    AllOf ["magic_number".toList] issues := by
  unfold numberIssues at h
  split at h
  · obtain rfl := Except.ok.inj h
    exact .none
  dsimp only at h
  split at h
  · obtain rfl := Except.ok.inj h
    exact .none
  split at h
  · exact nomatch h
  · obtain rfl := Except.ok.inj h
    exact .one List.mem_cons_self

theorem allOf_handlerIssues :
    AllOf ["bare_except".toList, "empty_except".toList] (handlerIssues subject node) := by
  unfold handlerIssues
  split
  · refine .append (.ite (.one List.mem_cons_self) .none) ?_
    split
    · exact .one (List.mem_cons_of_mem _ List.mem_cons_self)
    · exact .none
  · exact .none

theorem allOf_todoIssues : AllOf ["todo_comment".toList] (todoIssues path number line) := by
  unfold todoIssues
  split
  · exact .none
  · exact .one List.mem_cons_self

theorem allOf_commentedIssues :
    AllOf ["commented_code".toList] (commentedIssues path number line) := by
  unfold commentedIssues
  dsimp only
  split
  · exact .none
  · exact .ite (.one List.mem_cons_self) .none

theorem allOf_starIssues : AllOf ["star_import".toList] (starIssues path node) := by
  unfold starIssues
  split
  · refine .flatMap (fun part => ?_) _
    split
    · exact .ite (.one List.mem_cons_self) .none
    · exact .none
  · exact .none

theorem allOf_importIssues : AllOf ["unused_import".toList] (importIssues subject tree) := by
  intro i hi
  obtain ⟨e, _, hi⟩ := List.mem_filterMap.mp hi
  dsimp only at hi
  split at hi
  · exact nomatch hi
  · obtain rfl := Option.some.inj hi
    exact List.mem_cons_self

theorem allOf_variableIssues : AllOf ["unused_variable".toList] (variableIssues subject node) := by
  unfold variableIssues
  split
  · intro i hi
    obtain ⟨e, _, hi⟩ := List.mem_filterMap.mp hi
    dsimp only at hi
    split at hi
    · exact nomatch hi
    · obtain rfl := Option.some.inj hi
      exact List.mem_cons_self
  · exact .none

theorem allOf_defaultIssues : AllOf ["mutable_default".toList] (defaultIssues path node) := by
  unfold defaultIssues
  split
  · exact .ite (.one List.mem_cons_self) .none
  · exact .none

theorem allOf_printIssues : AllOf ["print_statement".toList] (printIssues subject node) := by
  unfold printIssues
  split
  · exact .ite (.one List.mem_cons_self) .none
  · exact .none

variable {subject tree}

theorem run_smells {source : Text} (h : treeOf source = some tree) (path : Text) :
    smells.run ⟨path, source⟩ none = smellIssues ⟨path, source⟩ tree := by
  have htree : Subject.tree? ⟨path, source⟩ none = some tree := h
  simp only [smells, Analyzer.onTree, htree]

/-- What is found in a tree has its unexplained numbers and its unused variables from the checks for
these. -/
theorem ofType_smellIssues {issues : List Issue} (h : smellIssues subject tree = .ok issues) :
    (∃ numbers, tree.walkWithParent.mapM (fun p => numberIssues subject p.1 p.2) = .ok numbers
        ∧ ofType "magic_number" issues = numbers.flatten)
      ∧ ofType "unused_variable" issues = tree.walk.flatMap (variableIssues subject) := by
  obtain ⟨numbers, hnumbers, h⟩ := Steps.bind_ok h
  obtain rfl := Except.ok.inj h
  have hnumber : AllOf ["magic_number".toList] numbers.flatten := by
    intro i hi
    obtain ⟨found, hfound, hi⟩ := List.mem_flatten.mp hi
    obtain ⟨p, _, hp⟩ := Steps.exists_of_mem_mapM hnumbers hfound
    exact allOf_numberIssues subject p.2 hp i hi
  have hdocstring := AllOf.flatMap (allOf_docstringIssues subject.path) tree.walk
  have hhandler := AllOf.flatMap (allOf_handlerIssues subject) tree.walk
  have htodo : AllOf ["todo_comment".toList] (subject.scan todoIssues) :=
    .flatMap (fun p : Nat × Text => allOf_todoIssues subject.path p.2 p.1) subject.numberedLines
  have hstar := AllOf.flatMap (allOf_starIssues subject.path) tree.walk
  have himport := allOf_importIssues subject tree
  have hvariable := AllOf.flatMap (allOf_variableIssues subject) tree.walk
  have hcommented : AllOf ["commented_code".toList] (subject.scan commentedIssues) :=
    .flatMap (fun p : Nat × Text => allOf_commentedIssues subject.path p.2 p.1)
      subject.numberedLines
  have hdefault := AllOf.flatMap (allOf_defaultIssues subject.path) tree.walk
  have hprint : AllOf ["print_statement".toList] (if isTestPath subject.path then []
      else tree.walk.flatMap (printIssues subject)) :=
    .ite .none (.flatMap (allOf_printIssues subject) tree.walk)
  -- The checks stand side by side; from the last one on, those of other types are left out.
  refine ⟨⟨numbers, hnumbers, ?_⟩, ?_⟩
  · let type : Text := "magic_number"
    rw [hprint.ofType_append_left type (by decide), hdefault.ofType_append_left type (by decide),
      hcommented.ofType_append_left type (by decide), hvariable.ofType_append_left type (by decide),
      himport.ofType_append_left type (by decide), hstar.ofType_append_left type (by decide),
      htodo.ofType_append_left type (by decide), hhandler.ofType_append_left type (by decide),
      hdocstring.ofType_append_right type (by decide), hnumber.ofType_eq]
  · let type : Text := "unused_variable"
    rw [hprint.ofType_append_left type (by decide), hdefault.ofType_append_left type (by decide),
      hcommented.ofType_append_left type (by decide), ofType_append,
      himport.ofType_append_left type (by decide), hstar.ofType_append_left type (by decide),
      htodo.ofType_append_left type (by decide), hhandler.ofType_append_left type (by decide),
      hnumber.ofType_append_left type (by decide), hdocstring.ofType_eq_nil type (by decide),
      hvariable.ofType_eq, List.nil_append]

end CodeReview.Analysis
