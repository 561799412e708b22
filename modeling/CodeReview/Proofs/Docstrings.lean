import CodeReview.Analysis.Smells
import CodeReview.Proofs.Writing

/-!
# Missing documentation, as a check and as an outline tell it

The check for missing documentation and the outline of a source have their own tests for a
documentation string. They agree on every body, so the check reports exactly the entries of the
outline that have none. The outline also has the decorators and the bases in writing, though, and
there is no outline of a source in which one of these cannot be written; the check needs neither.
-/

namespace CodeReview.Analysis

open Source

/-! ## What an issue is about -/

/-- The name and the line that an issue tells, if it is about this kind of thing. -/
def told? (kind : Text) (i : Issue) : Option (Text × Int) :=
  match i.metadata.get? "type", i.metadata.get? "name" with
  | some (.text k), some (.text name) => if k = kind then some (name, i.line) else none
  | _, _ => none

def told (kind : Text) (issues : List Issue) : List (Text × Int) :=
  issues.filterMap (told? kind)

section

variable (kind k name path : Text) (node : Node) (type : Text) (severity : Severity)
  (message code suggestion rule : Text)

theorem told?_smellAt :
    told? kind (smellAt path node type severity message code suggestion rule
        [("type", .text k), ("name", .text name)])
      = if k = kind then some (name, (node.line : Int)) else none := by
  simp [told?, smellAt, Entries.get?]

theorem told_smellAt :
    told kind [smellAt path node type severity message code suggestion rule
        [("type", .text k), ("name", .text name)]]
      = if k = kind then [(name, (node.line : Int))] else [] := by
  rw [told, List.filterMap_cons, told?_smellAt, List.filterMap_nil]
  by_cases hkind : k = kind
  · rw [if_pos hkind, if_pos hkind]
  · rw [if_neg hkind, if_neg hkind]

end

/-! ## One node -/

/-- The two tests for a documentation string agree: whether there is one does not depend on what
is left of it without its indentation. -/
theorem isDocumented_eq (body : List Node) : isDocumented body = (bodyDocstring body).isSome := by
  unfold isDocumented
  split
  · rfl
  · rename_i hother
    unfold bodyDocstring
    split
    · rename_i span place t mark rest
      exact absurd rfl (hother span place t mark rest)
    · rfl

section

variable (kind path : Text)

theorem told_functionDef (span : Span) (async : Bool) (id : Text) (params : Node)
    (body decorators : List Node) (returns : Option Node) :
    told kind (docstringIssues path (.functionDef span async id params body decorators returns))
      = if id.head? = some '_' || (bodyDocstring body).isSome then []
        else if "function".toList = kind then [(id, (span.line : Int))] else [] := by
  rw [docstringIssues, isDocumented_eq]
  split
  · rfl
  · exact told_smellAt kind ..

theorem told_classDef (span : Span) (id : Text) (bases keywords body decorators : List Node) :
    told kind (docstringIssues path (.classDef span id bases keywords body decorators))
      = if (bodyDocstring body).isSome then []
        else if "class".toList = kind then [(id, (span.line : Int))] else [] := by
  rw [docstringIssues, isDocumented_eq]
  split
  · rfl
  · exact told_smellAt kind ..

end

/-- An entry of a function that should be documented and is not. -/
def bareFunction (f : FunctionInfo) : Bool :=
  f.docstring.isNone && f.name.head? ≠ some '_'

/-- An entry of a class that is not documented. -/
def bareClass (c : ClassInfo) : Bool :=
  c.docstring.isNone

theorem told_functionInfo? (path : Text) {node : Node} {entry : Option FunctionInfo}
    (h : node.functionInfo? = .ok entry) :
    told "function" (docstringIssues path node)
      = (entry.toList.filter bareFunction).map fun f => (f.name, (f.line : Int)) := by
  unfold Node.functionInfo? at h
  split at h
  · rename_i span async id params body decorators returns
    obtain ⟨written, _, h⟩ := Steps.bind_ok h
    obtain rfl := Except.ok.inj h
    rw [told_functionDef, if_pos rfl, Option.toList_some]
    by_cases hprivate : id.head? = some '_'
    · simp [bareFunction, hprivate]
    · cases hdoc : bodyDocstring body <;> simp [bareFunction, hprivate]
  · rename_i hother
    obtain rfl := Except.ok.inj h
    -- What is left is a class, which the outline of functions leaves out, or nothing at all.
    unfold docstringIssues
    split
    · rename_i span async id params body decorators returns
      exact absurd rfl (hother span async id params body decorators returns)
    · split
      · rfl
      · exact (told_smellAt "function" "class" ..).trans (if_neg (by decide))
    · rfl

theorem told_classInfo? (path : Text) {node : Node} {entry : Option ClassInfo}
    (h : node.classInfo? = .ok entry) :
    told "class" (docstringIssues path node)
      = (entry.toList.filter bareClass).map fun c => (c.name, (c.line : Int)) := by
  unfold Node.classInfo? at h
  split at h
  · rename_i span id bases keywords body decorators
    obtain ⟨written, _, h⟩ := Steps.bind_ok h
    obtain rfl := Except.ok.inj h
    rw [told_classDef, if_pos rfl, Option.toList_some]
    cases bodyDocstring body with
    | none => rfl
    | some t => rfl
  · rename_i hother
    obtain rfl := Except.ok.inj h
    unfold docstringIssues
    split
    · split
      · rfl
      · exact (told_smellAt "class" "function" ..).trans (if_neg (by decide))
    · rename_i span id bases keywords body decorators
      exact absurd rfl (hother span id bases keywords body decorators)
    · rfl

/-- Every issue is about a function or about a class. -/
theorem length_docstringIssues (path : Text) (node : Node) :
    (docstringIssues path node).length
      = (told "function" (docstringIssues path node)).length
        + (told "class" (docstringIssues path node)).length := by
  unfold docstringIssues
  split
  · split
    · rfl
    · rw [told_smellAt, told_smellAt, if_pos rfl, if_neg (by decide)]
      rfl
  · split
    · rfl
    · rw [told_smellAt, told_smellAt, if_neg (by decide), if_pos rfl]
      rfl
  · rfl

/-! ## All nodes -/

/-- Nodes and entries are compared one by one, in the order of the nodes. -/
theorem told_flatMap {α : Type} {kind path : Text} {lacks : α → Bool} {key : α → Text × Int}
    {nodes : List Node} {entries : List (Option α)}
    (h : List.Forall₂ (fun node entry => told kind (docstringIssues path node)
      = (entry.toList.filter lacks).map key) nodes entries) :
    told kind (nodes.flatMap (docstringIssues path))
      = ((entries.filterMap fun e => e).filter lacks).map key := by
  induction h with
  | nil => rfl
  | @cons node entry nodes entries hone _ ih =>
    have hentries : (entry :: entries).filterMap (fun e => e)
        = entry.toList ++ entries.filterMap fun e => e := by
      cases entry <;> rfl
    rw [hentries, List.filter_append, List.map_append, ← hone, ← ih, List.flatMap_cons]
    exact List.filterMap_append

theorem length_flatMap_docstringIssues (path : Text) (nodes : List Node) :
    (nodes.flatMap (docstringIssues path)).length
      = (told "function" (nodes.flatMap (docstringIssues path))).length
        + (told "class" (nodes.flatMap (docstringIssues path))).length := by
  induction nodes with
  | nil => rfl
  | cons node nodes ih =>
    have hone := length_docstringIssues path node
    unfold told at hone ih ⊢
    rw [List.flatMap_cons, List.filterMap_append, List.filterMap_append, List.length_append,
      List.length_append, List.length_append]
    omega

/-! ## Outlines that cannot be written -/

def isAttribute : Node → Bool
  | .attr .. => true
  | _ => false

/-- What an outline of functions has in writing: the decorators. -/
def functionWriting : Node → List Node
  | .functionDef _ _ _ _ _ decorators _ => decorators
  | _ => []

/-- What an outline of classes has in writing: the bases that are attributes. -/
def classWriting : Node → List Node
  | .classDef _ _ bases _ _ _ => bases.filter isAttribute
  | _ => []

theorem exists_functionInfo?_iff (node : Node) :
    (∃ entry, node.functionInfo? = .ok entry) ↔ ∀ d ∈ functionWriting node, d.Writable := by
  unfold Node.functionInfo?
  split
  · exact Steps.exists_map_iff.trans Steps.exists_mapM_iff
  · rename_i hother
    have hnone : functionWriting node = [] := by
      unfold functionWriting
      split
      · exact (hother _ _ _ _ _ _ _ rfl).elim
      · rfl
    rw [hnone]
    exact ⟨fun _ d hd => absurd hd List.not_mem_nil, fun _ => ⟨none, rfl⟩⟩

theorem exists_baseName?_iff (base : Node) :
    (∃ name, base.baseName? = .ok name) ↔ (isAttribute base = true → base.Writable) := by
  unfold Node.baseName?
  split
  · exact ⟨fun _ h => Bool.noConfusion h, fun _ => ⟨_, rfl⟩⟩
  · exact Steps.exists_map_iff.trans ⟨fun h _ => h, fun h => h rfl⟩
  · rename_i _ hother
    have hplain : ¬ isAttribute base = true := by
      unfold isAttribute
      split
      · exact (hother _ _ _ _ rfl).elim
      · decide
    exact ⟨fun _ h => absurd h hplain, fun _ => ⟨none, rfl⟩⟩

theorem exists_classInfo?_iff (node : Node) :
    (∃ entry, node.classInfo? = .ok entry) ↔ ∀ d ∈ classWriting node, d.Writable := by
  unfold Node.classInfo?
  split
  · rename_i span id bases keywords body decorators
    apply Steps.exists_map_iff.trans
    apply Steps.exists_mapM_iff.trans
    simp only [exists_baseName?_iff, classWriting, List.mem_filter, and_imp]
  · rename_i hother
    have hnone : classWriting node = [] := by
      unfold classWriting
      split
      · exact (hother _ _ _ _ _ _ rfl).elim
      · rfl
    rw [hnone]
    exact ⟨fun _ d hd => absurd hd List.not_mem_nil, fun _ => ⟨none, rfl⟩⟩

/-! ## Check and outline -/

section

variable {source : Text} {tree : Node} (h : treeOf source = some tree)
include h

theorem exists_functionsOf_iff :
    (∃ fs, functionsOf source = .ok fs)
      ↔ ∀ node ∈ tree.walk, ∀ d ∈ functionWriting node, d.Writable := by
  rw [functionsOf, h]
  apply Steps.exists_map_iff.trans
  apply Steps.exists_mapM_iff.trans
  simp only [exists_functionInfo?_iff]

theorem exists_classesOf_iff :
    (∃ cs, classesOf source = .ok cs)
      ↔ ∀ node ∈ tree.walk, ∀ d ∈ classWriting node, d.Writable := by
  rw [classesOf, h]
  apply Steps.exists_map_iff.trans
  apply Steps.exists_mapM_iff.trans
  simp only [exists_classInfo?_iff]

theorem told_functionsOf (path : Text) {fs : List FunctionInfo}
    (hfs : functionsOf source = .ok fs) :
    told "function" (tree.walk.flatMap (docstringIssues path))
      = (fs.filter bareFunction).map fun f => (f.name, (f.line : Int)) := by
  rw [functionsOf, h] at hfs
  obtain ⟨entries, hentries, hfs⟩ := Steps.bind_ok hfs
  obtain rfl := Except.ok.inj hfs
  apply told_flatMap
  exact (Steps.forall₂_of_mapM hentries).imp fun _ _ => told_functionInfo? path

theorem told_classesOf (path : Text) {cs : List ClassInfo} (hcs : classesOf source = .ok cs) :
    told "class" (tree.walk.flatMap (docstringIssues path))
      = (cs.filter bareClass).map fun c => (c.name, (c.line : Int)) := by
  rw [classesOf, h] at hcs
  obtain ⟨entries, hentries, hcs⟩ := Steps.bind_ok hcs
  obtain rfl := Except.ok.inj hcs
  apply told_flatMap
  exact (Steps.forall₂_of_mapM hentries).imp fun _ _ => told_classInfo? path

/-- There is an outline of functions if all decorators can be written, and an outline of classes if
all bases that are attributes can. Then the issues of the check are, in order, the functions of the
outline without documentation whose names do not start with an underscore, and the classes
without documentation; there are no other issues. Decorators and bases without formatted values
and without integers of too many digits can all be written. -/
theorem missing_docstrings_outlined (path : Text) :
    ((∃ fs, functionsOf source = .ok fs)
        ↔ ∀ node ∈ tree.walk, ∀ d ∈ functionWriting node, d.Writable)
    ∧ ((∃ cs, classesOf source = .ok cs)
        ↔ ∀ node ∈ tree.walk, ∀ d ∈ classWriting node, d.Writable)
    ∧ (∀ node ∈ tree.walk, ∀ d ∈ functionWriting node ++ classWriting node,
        d.Modest → d.Writable)
    ∧ (∀ fs, functionsOf source = .ok fs →
        told "function" (tree.walk.flatMap (docstringIssues path))
          = (fs.filter bareFunction).map fun f => (f.name, (f.line : Int)))
    ∧ (∀ cs, classesOf source = .ok cs →
        told "class" (tree.walk.flatMap (docstringIssues path))
          = (cs.filter bareClass).map fun c => (c.name, (c.line : Int)))
    ∧ (tree.walk.flatMap (docstringIssues path)).length
        = (told "function" (tree.walk.flatMap (docstringIssues path))).length
          + (told "class" (tree.walk.flatMap (docstringIssues path))).length :=
  ⟨exists_functionsOf_iff h, exists_classesOf_iff h, fun _ _ _ _ hmodest => hmodest.writable,
    fun _ => told_functionsOf h path, fun _ => told_classesOf h path,
    length_flatMap_docstringIssues path tree.walk⟩

end

/-- Functions and classes one inside the other, with bodies that start with a text, an empty text,
bytes, a formatted string and a number. -/
def variedBodies : Text :=
  ("class A(b.C):\n  b'x'\n  def g(self):\n    ''\n  def _h(self): 1\n"
    ++ "  @wraps(f, 3)\n  def i(self):\n    f'x'\nclass B:\n  'doc'\n  def j(self): pass" : String)

theorem missing_docstrings_outlined_variedBodies :
    ∃ tree fs cs, treeOf variedBodies = some tree
      ∧ functionsOf variedBodies = .ok fs ∧ classesOf variedBodies = .ok cs
      ∧ told "function" (tree.walk.flatMap (docstringIssues "a.py"))
        = (fs.filter bareFunction).map (fun f => (f.name, (f.line : Int)))
      ∧ told "class" (tree.walk.flatMap (docstringIssues "a.py"))
        = (cs.filter bareClass).map (fun c => (c.name, (c.line : Int)))
      ∧ told "function" (tree.walk.flatMap (docstringIssues "a.py"))
        = [("i".toList, 7), ("j".toList, 11)]
      ∧ told "class" (tree.walk.flatMap (docstringIssues "a.py")) = [("A".toList, 1)] := by
  have hread : (treeOf variedBodies).map (fun tree =>
      (decide (∀ node ∈ tree.walk, ∀ d ∈ functionWriting node ++ classWriting node, d.Modest),
        told "function" (tree.walk.flatMap (docstringIssues "a.py")),
        told "class" (tree.walk.flatMap (docstringIssues "a.py"))))
      = some (true, [("i".toList, 7), ("j".toList, 11)], [("A".toList, 1)]) := by
    decide +kernel
  obtain ⟨tree, htree, hfacts⟩ := Option.map_eq_some_iff.mp hread
  simp only [Prod.mk.injEq, decide_eq_true_eq] at hfacts
  obtain ⟨hmodest, hfunctions, hclasses⟩ := hfacts
  obtain ⟨hfs, hcs, hwritable, hfunction, hclass, _⟩ := missing_docstrings_outlined htree "a.py"
  obtain ⟨fs, hfs⟩ := hfs.mpr fun node hnode d hd =>
    hwritable node hnode d (List.mem_append_left _ hd)
      (hmodest node hnode d (List.mem_append_left _ hd))
  obtain ⟨cs, hcs⟩ := hcs.mpr fun node hnode d hd =>
    hwritable node hnode d (List.mem_append_right _ hd)
      (hmodest node hnode d (List.mem_append_right _ hd))
  exact ⟨tree, fs, cs, htree, hfs, hcs, hfunction fs hfs, hclass cs hcs, hfunctions, hclasses⟩

/-- A function under a decorator that needs a backslash in a formatted string is reported as not
documented, but there is no outline that it could be an entry of. -/
theorem undocumented_without_outline :
    (treeOf "@d(f\"\x7b'\x7f'\x7d\")\ndef f(): pass").map (fun tree =>
        told "function" (tree.walk.flatMap (docstringIssues "a.py"))) = some [("f".toList, 2)]
      ∧ (functionsOf "@d(f\"\x7b'\x7f'\x7d\")\ndef f(): pass").map (fun _ => ())
        = .error .backslashNeeded := by
  constructor <;> decide +kernel

end CodeReview.Analysis
