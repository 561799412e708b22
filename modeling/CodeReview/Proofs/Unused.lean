import CodeReview.Proofs.Smells

/-!
# Unused imports and variables

Which names are reported as imported and not used, and how often a variable is reported as assigned
and not read. Both checks put names with their lines into entries while they walk over a tree, so
that a name is reported once, where it was bound last, in the order in which the names were bound
first.

For imports that is all, since a whole tree is looked at once. Variables are looked for in each
function of a tree, with all that stands below it. A function in another one is looked at twice, and
so its variables may be reported twice.
-/

namespace CodeReview

open Source

/-- The name that an issue is about, and its line. -/
def Issue.about (i : Issue) : Option Value × Int :=
  (Entries.get? i.metadata "name", i.line)

namespace Source.Node

/-- The name stands somewhere in the tree, to be read, assigned to or deleted. -/
def Mentions (tree : Node) (name : Text) : Prop :=
  ∃ span use, Node.name span name use ∈ tree.walk

/-- The parts of an import statement, each of which may bind a name. -/
def importParts : Node → List Node
  | importStmt _ names => names
  | importFrom _ _ names _ => names
  | _ => []

/-- The import statements of a tree with their parts, in the order of a walk. -/
def importsIn (tree : Node) : List (Node × Node) :=
  tree.walk.flatMap fun n => n.importParts.map fun part => (n, part)

/-- What assignments in a tree assign to, in the order of a walk. -/
def targets : Node → List Node
  | assign _ targets _ => targets
  | _ => []

def targetsIn (tree : Node) : List Node :=
  tree.walk.flatMap targets

end Source.Node

namespace Analysis

/-! ## Imports -/

/-- A part of an import statement binds a name: the one after `as`; if there is none, the first
part of the name of a module, or the name that is taken out of a module. A star binds nothing. -/
inductive Binds : Node × Node → Text → Prop
  | moduleAs (span s : Span) (names : List Node) (name asName : Text) :
    Binds (.importStmt span names, .importName s name (some asName)) asName
  | moduleFirst (span s : Span) (names : List Node) (first rest : Text) (hfirst : '.' ∉ first)
      (hrest : rest = [] ∨ rest.head? = some '.') :
    Binds (.importStmt span names, .importName s (first ++ rest) none) first
  | takenAs (span s : Span) (source : Option Text) (names : List Node) (level : Nat)
      (name asName : Text) (hstar : name ≠ ['*']) :
    Binds (.importFrom span source names level, .importName s name (some asName)) asName
  | taken (span s : Span) (source : Option Text) (names : List Node) (level : Nat) (name : Text)
      (hstar : name ≠ ['*']) :
    Binds (.importFrom span source names level, .importName s name none) name

/-- The name that a part of an import statement binds, and the line of the statement. -/
def binding? : Node × Node → Option (Text × Nat)
  | (.importStmt span _, .importName _ name asName) =>
    some (asName.getD (name.takeWhile (· ≠ '.')), span.line)
  | (.importFrom span _ _ _, .importName _ name asName) =>
    if name = ['*'] then none else some (asName.getD name, span.line)
  | _ => none

theorem takeWhile_undotted {first rest : Text} (hfirst : '.' ∉ first)
    (hrest : rest = [] ∨ rest.head? = some '.') :
    (first ++ rest).takeWhile (· ≠ '.') = first := by
  have hkept : ∀ c ∈ first, decide (c ≠ '.') = true := by
    intro c hc
    exact decide_eq_true fun heq => hfirst (heq ▸ hc)
  have hcut : rest.takeWhile (· ≠ '.') = [] := by
    rcases hrest with rfl | hdot
    · rfl
    · obtain ⟨rest, rfl⟩ := List.head?_eq_some_iff.mp hdot
      rfl
  rw [List.takeWhile_append_of_pos hkept, hcut, List.append_nil]

variable {name : Text} {p : Node × Node}

theorem binding?_of_binds (h : Binds p name) :
    binding? p = some (name, p.1.line) := by
  cases h with
  | moduleAs => rfl
  | moduleFirst span s names first rest hfirst hrest =>
    simp only [binding?, Option.getD_none, takeWhile_undotted hfirst hrest]
    rfl
  | takenAs span s source names level name asName hstar => exact if_neg hstar
  | taken span s source names level name hstar => exact if_neg hstar

variable {line : Nat}

theorem binds_of_binding?
    (h : binding? p = some (name, line)) : Binds p name ∧ p.1.line = line := by
  unfold binding? at h
  split at h
  · next span names s dotted asName =>
    obtain ⟨rfl, rfl⟩ := Prod.mk.inj (Option.some.inj h)
    refine ⟨?_, rfl⟩
    cases asName with
    | some asName => exact .moduleAs ..
    | none =>
      -- What is cut off is empty or starts with the dot at which it was cut.
      have hparts := List.takeWhile_append_dropWhile (p := (· ≠ '.')) (l := dotted)
      have hfirst : '.' ∉ dotted.takeWhile (· ≠ '.') := fun hdot =>
        absurd (List.all_eq_true.mp List.all_takeWhile _ hdot) (by decide)
      have hrest : dotted.dropWhile (· ≠ '.') = []
          ∨ (dotted.dropWhile (· ≠ '.')).head? = some '.' := by
        cases hdrop : dotted.dropWhile (· ≠ '.') with
        | nil => exact .inl rfl
        | cons c cs =>
          have hc := List.head?_dropWhile_not (· ≠ '.') dotted
          rw [hdrop] at hc
          exact .inr (by simpa using hc)
      have hbinds := Binds.moduleFirst span s names _ _ hfirst hrest
      rw [hparts] at hbinds
      exact hbinds
  · next span source names level s taken asName =>
    split at h
    · exact nomatch h
    · next hstar =>
      obtain ⟨rfl, rfl⟩ := Prod.mk.inj (Option.some.inj h)
      refine ⟨?_, rfl⟩
      cases asName with
      | some asName => exact .takenAs _ _ _ _ _ _ _ hstar
      | none => exact .taken _ _ _ _ _ _ hstar
  · exact nomatch h

theorem binding?_eq_some_iff :
    binding? p = some (name, line) ↔ Binds p name ∧ p.1.line = line :=
  ⟨binds_of_binding?, fun ⟨hbinds, hline⟩ => hline ▸ binding?_of_binds hbinds⟩

theorem flatMap_boundNames (tree : Node) :
    tree.walk.flatMap boundNames = tree.importsIn.filterMap binding? := by
  rw [Node.importsIn, List.filterMap_flatMap]
  apply List.flatMap_congr
  intro n _
  rw [List.filterMap_map]
  cases n with
  | importStmt span names =>
    apply List.filterMap_congr
    intro part _
    cases part <;> rfl
  | importFrom span source names level =>
    apply List.filterMap_congr
    intro part _
    cases part <;> rfl
  | _ => rfl

/-! ## Names that are used -/

/-- Whatever stands to the right of a name, the name itself is a node of the tree. -/
theorem reaches_of_rootName? {n : Node} {id : Text} (h : rootName? n = some id) :
    ∃ span use, Relation.ReflTransGen Node.HasChild n (.name span id use) := by
  induction n using rootName?.induct with
  | case1 span id' use =>
    obtain rfl := Option.some.inj h
    exact ⟨span, use, .refl⟩
  | case2 span value name use ih =>
    -- The chain goes on in the value, which is a child.
    obtain ⟨s, u, hreach⟩ := ih h
    exact ⟨s, u, .head (List.mem_singleton.mpr rfl) hreach⟩
  | case3 n hname hattr =>
    cases n with
    | name => exact absurd rfl (hname _ _ _)
    | attr => exact absurd rfl (hattr _ _ _ _)
    | _ => exact nomatch h

variable {tree : Node}

theorem mem_filterMap_rootName? :
    name ∈ tree.walk.filterMap rootName? ↔ tree.Mentions name := by
  rw [List.mem_filterMap]
  constructor
  · rintro ⟨n, hn, hroot⟩
    obtain ⟨span, use, hreach⟩ := reaches_of_rootName? hroot
    refine ⟨span, use, Node.mem_walk_iff.mpr ?_⟩
    exact (Node.mem_walk_iff.mp hn).trans hreach
  · rintro ⟨span, use, hname⟩
    exact ⟨_, hname, rfl⟩

/-- The last import in a tree that binds a name stands on a line. -/
def LastBoundAt (tree : Node) (name : Text) (line : Nat) : Prop :=
  ∃ before p after, tree.importsIn = before ++ p :: after ∧ Binds p name ∧ p.1.line = line
    ∧ ∀ q ∈ after, ¬ Binds q name

/-- Some import in a tree binds a name before any binds the other one. -/
def BoundBefore (tree : Node) (name other : Text) : Prop :=
  ∃ before p after, tree.importsIn = before ++ p :: after ∧ Binds p name
    ∧ ∀ q ∈ before, ¬ Binds q other

theorem unbound_iff :
    (∀ line, binding? p ≠ some (name, line)) ↔ ¬ Binds p name :=
  ⟨fun h hbinds => h _ (binding?_of_binds hbinds),
    fun h _ hbinding => h (binds_of_binding? hbinding).1⟩

theorem mem_boundEntries_iff :
    (name, line) ∈ Entries.ofPairs (tree.walk.flatMap boundNames) ↔ LastBoundAt tree name line := by
  rw [flatMap_boundNames, Entries.mem_ofPairs_filterMap_iff]
  simp only [binding?_eq_some_iff, unbound_iff, LastBoundAt, and_assoc]

theorem pairwise_boundEntries (tree : Node) :
    (Entries.names (Entries.ofPairs (tree.walk.flatMap boundNames))).Pairwise
      (BoundBefore tree) := by
  rw [flatMap_boundNames]
  apply Entries.pairwise_names_filterMap.imp
  rintro name other ⟨before, p, after, hsplit, ⟨line, hp⟩, hbefore⟩
  exact ⟨before, p, after, hsplit, (binds_of_binding? hp).1,
    fun q hq => unbound_iff.mp (hbefore q hq)⟩

/-- What issues say that are found at all entries but those that are excused. -/
theorem map_about_filterMap (excused : Text → Bool) {find : Text × Nat → Option Issue}
    (hfind : ∀ e, (find e).map Issue.about
      = if excused e.1 then none else some (some (.text e.1), (e.2 : Int)))
    (es : Entries Nat) :
    (es.filterMap find).map Issue.about
      = (es.filter fun e => !excused e.1).map fun e => (some (.text e.1), (e.2 : Int)) := by
  rw [List.map_filterMap]
  induction es with
  | nil => rfl
  | cons e es ih =>
    have he := hfind e
    cases hexcused : excused e.1 with
    | true =>
      rw [hexcused, if_pos rfl] at he
      rw [List.filter_cons_of_neg (by simp [hexcused]), ← ih]
      simp only [List.filterMap_cons, he]
    | false =>
      rw [hexcused, if_neg Bool.false_ne_true] at he
      rw [List.filter_cons_of_pos (by simp [hexcused]), List.map_cons, ← ih]
      simp only [List.filterMap_cons, he]

/-- The unused imports of a tree: the names that some import binds and that stand nowhere in the
tree, but for three that need not be used. Each is reported once, on the line of the last import
that binds it, in the order in which they are bound first. -/
theorem importIssues_exact (subject : Subject) (tree : Node) :
    ∃ unused : List (Text × Nat),
      (importIssues subject tree).map Issue.about
          = unused.map (fun e => (some (.text e.1), (e.2 : Int)))
        ∧ (unused.map Prod.fst).Nodup
        ∧ (unused.map Prod.fst).Pairwise (BoundBefore tree)
        ∧ ∀ name line, (name, line) ∈ unused
          ↔ LastBoundAt tree name line ∧ ¬ tree.Mentions name
            ∧ name ∉ ["TYPE_CHECKING".toList, "annotations".toList, "__future__".toList] := by
  let entries := Entries.ofPairs (tree.walk.flatMap boundNames)
  let excused (name : Text) : Bool :=
    (tree.walk.filterMap rootName?).contains name || unusedAllowed.contains name
  -- Leaving names out keeps the rest apart and in order, so both are known from all entries.
  have hsub : ((entries.filter fun e => !excused e.1).map Prod.fst).Sublist
      (Entries.names entries) := List.filter_sublist.map _
  refine ⟨entries.filter fun e => !excused e.1, map_about_filterMap excused ?_ _, ?_, ?_, ?_⟩
  · intro e
    dsimp only
    split <;> rfl
  · exact hsub.nodup (Entries.nodup_names_ofPairs _)
  · exact (pairwise_boundEntries tree).sublist hsub
  · intro name line
    have hexcused : excused name = false
        ↔ ¬ tree.Mentions name
          ∧ name ∉ ["TYPE_CHECKING".toList, "annotations".toList, "__future__".toList] := by
      rw [Bool.or_eq_false_iff, ← mem_filterMap_rootName?]
      simp only [List.contains_eq_mem, decide_eq_false_iff_not]
      rfl
    rw [List.mem_filter, mem_boundEntries_iff, Bool.not_eq_true', hexcused]

/-! ## Variables -/

/-- The last assignment to a name in a tree, in the order of a walk, has the name on a line. -/
def LastAssignedAt (tree : Node) (name : Text) (line : Nat) : Prop :=
  ∃ before span use after, tree.targetsIn = before ++ .name span name use :: after
    ∧ span.line = line ∧ ∀ s u, Node.name s name u ∉ after

/-- A variable of a function that is assigned and never read in it, and the line where it is
assigned last. Names with a leading underscore do not count. -/
structure UnreadIn (f : Node) (name : Text) (line : Nat) : Prop where
  function : f.functionName?.isSome
  shown : name.head? ≠ some '_'
  assigned : LastAssignedAt f name line
  unread : ∀ span, Node.name span name .load ∉ f.walk

/-- The variable that a target of an assignment is, with its line. -/
def assigned? : Node → Option (Text × Nat)
  | .name span id _ => if id.head? = some '_' then none else some (id, span.line)
  | _ => none

theorem assigned?_eq_some_iff {t : Node} :
    assigned? t = some (name, line)
      ↔ name.head? ≠ some '_' ∧ ∃ span use, t = .name span name use ∧ span.line = line := by
  unfold assigned?
  split
  · next span id use =>
    split
    · next hid =>
      constructor
      · intro h
        cases h
      · rintro ⟨hname, _, _, heq, _⟩
        obtain ⟨-, rfl, -⟩ := Node.name.inj heq
        exact absurd hid hname
    · next hid =>
      constructor
      · intro h
        obtain ⟨rfl, rfl⟩ := Prod.mk.inj (Option.some.inj h)
        exact ⟨hid, span, use, rfl, rfl⟩
      · rintro ⟨_, _, _, heq, rfl⟩
        obtain ⟨rfl, rfl, -⟩ := Node.name.inj heq
        rfl
  · next hother =>
    constructor
    · intro h
      cases h
    · rintro ⟨_, span, use, rfl, _⟩
      exact absurd rfl (hother span name use)

theorem flatMap_assignedNames (tree : Node) :
    tree.walk.flatMap assignedNames = tree.targetsIn.filterMap assigned? := by
  rw [Node.targetsIn, List.filterMap_flatMap]
  apply List.flatMap_congr
  intro n _
  cases n with
  | assign span targets value =>
    apply List.filterMap_congr
    intro t _
    cases t <;> rfl
  | _ => rfl

theorem mem_assignedEntries_iff :
    (name, line) ∈ Entries.ofPairs (tree.walk.flatMap assignedNames)
      ↔ name.head? ≠ some '_' ∧ LastAssignedAt tree name line := by
  rw [flatMap_assignedNames, Entries.mem_ofPairs_filterMap_iff]
  simp only [ne_eq, assigned?_eq_some_iff]
  constructor
  · rintro ⟨before, _, after, hsplit, ⟨hname, span, use, rfl, hline⟩, hafter⟩
    -- A later target of the same name is shown as well, so it would have been read.
    refine ⟨hname, before, span, use, after, hsplit, hline, fun s u hmem => ?_⟩
    exact hafter _ hmem s.line ⟨hname, s, u, rfl, rfl⟩
  · rintro ⟨hname, before, span, use, after, hsplit, hline, hafter⟩
    refine ⟨before, _, after, hsplit, ⟨hname, span, use, rfl, hline⟩, ?_⟩
    rintro _ hmem _ ⟨_, s, u, rfl, _⟩
    exact hafter s u hmem

theorem mem_filterMap_loadedName? :
    name ∈ tree.walk.filterMap loadedName? ↔ ∃ span, Node.name span name .load ∈ tree.walk := by
  rw [List.mem_filterMap]
  constructor
  · rintro ⟨n, hn, hload⟩
    unfold loadedName? at hload
    split at hload
    · obtain rfl := Option.some.inj hload
      exact ⟨_, hn⟩
    · exact nomatch hload
  · rintro ⟨span, hname⟩
    exact ⟨_, hname, rfl⟩

/-- The unread variables of a function with their lines. -/
def unreadOf (f : Node) : List (Text × Nat) :=
  if f.functionName?.isSome then
    (Entries.ofPairs (f.walk.flatMap assignedNames)).filter
      fun e => !(f.walk.filterMap loadedName?).contains e.1
  else []

theorem mem_unreadOf_iff {f : Node} :
    (name, line) ∈ unreadOf f ↔ UnreadIn f name line := by
  unfold unreadOf
  split
  · next hfunction =>
    rw [List.mem_filter, mem_assignedEntries_iff, Bool.not_eq_true', List.contains_eq_mem,
      decide_eq_false_iff_not, mem_filterMap_loadedName?, not_exists]
    exact ⟨fun ⟨⟨hshown, hassigned⟩, hunread⟩ => ⟨hfunction, hshown, hassigned, hunread⟩,
      fun h => ⟨⟨h.shown, h.assigned⟩, h.unread⟩⟩
  · next hfunction =>
    exact ⟨fun h => absurd h List.not_mem_nil, fun h => absurd h.function hfunction⟩

instance (f : Node) (name : Text) (line : Nat) : Decidable (UnreadIn f name line) :=
  decidable_of_iff _ mem_unreadOf_iff

theorem nodup_unreadOf (f : Node) : (unreadOf f).Nodup := by
  unfold unreadOf
  split
  · exact ((Entries.nodup_names_ofPairs _).of_map _).filter _
  · exact List.nodup_nil

/-- A function is said to have its unread variables. -/
theorem about_variableIssues (subject : Subject) (f : Node) :
    (variableIssues subject f).map Issue.about
      = (unreadOf f).map fun e => (some (.text e.1), (e.2 : Int)) := by
  cases f with
  | functionDef span async function params body decorators returns =>
    refine map_about_filterMap (List.contains _) (fun e => ?_) _
    dsimp only
    split <;> rfl
  | _ => rfl

theorem count_flatMap_unreadOf (nodes : List Node) (name : Text) (line : Nat) :
    (nodes.flatMap unreadOf).count (name, line)
      = nodes.countP fun f => UnreadIn f name line := by
  induction nodes with
  | nil => rfl
  | cons f nodes ih =>
    have hone : (unreadOf f).count (name, line) = if UnreadIn f name line then 1 else 0 := by
      rw [(nodup_unreadOf f).count]
      simp only [mem_unreadOf_iff]
    rw [List.flatMap_cons, List.count_append, ih, hone, List.countP_cons, Nat.add_comm]
    simp only [decide_eq_true_eq]

theorem shown_injective :
    Function.Injective fun e : Text × Nat =>
      ((some (.text e.1), (e.2 : Int)) : Option Value × Int) := by
  rintro ⟨name, line⟩ ⟨name', line'⟩ h
  simpa using h

/-- In what is found in a tree, a variable is reported as often as there are functions in which it
is unread. So no variable is reported twice on one line just if no two functions of the tree have an
unread variable in common; a function and one that stands in it may. -/
theorem variables_reported {source : Text} {tree : Node} (htree : treeOf source = some tree)
    {path : Text} {issues : List Issue} (hrun : smells.run ⟨path, source⟩ none = .ok issues) :
    ∃ reported : List (Text × Nat),
      (ofType "unused_variable" issues).map Issue.about
          = reported.map (fun e => (some (.text e.1), (e.2 : Int)))
        ∧ (∀ name line, reported.count (name, line)
          = tree.walk.countP fun f => UnreadIn f name line)
        ∧ (((ofType "unused_variable" issues).map Issue.about).Nodup
          ↔ tree.walk.Pairwise fun f g =>
            ∀ name line, UnreadIn f name line → ¬ UnreadIn g name line) := by
  rw [run_smells htree] at hrun
  have habout : (ofType "unused_variable" issues).map Issue.about
      = (tree.walk.flatMap unreadOf).map fun e => (some (.text e.1), (e.2 : Int)) := by
    rw [(ofType_smellIssues hrun).2, List.map_flatMap, List.map_flatMap]
    exact List.flatMap_congr fun f _ => about_variableIssues _ f
  refine ⟨tree.walk.flatMap unreadOf, habout, count_flatMap_unreadOf tree.walk, ?_⟩
  -- A function has each of its variables once, so only two functions can repeat one.
  rw [habout, List.nodup_map_iff shown_injective, List.nodup_flatMap]
  constructor
  · rintro ⟨_, hdisjoint⟩
    refine hdisjoint.imp fun hfg name line hf hg => ?_
    exact hfg (mem_unreadOf_iff.mpr hf) (mem_unreadOf_iff.mpr hg)
  · intro hpairwise
    refine ⟨fun f _ => nodup_unreadOf f, hpairwise.imp fun hfg => ?_⟩
    rintro ⟨name, line⟩ hf hg
    exact hfg name line (mem_unreadOf_iff.mp hf) (mem_unreadOf_iff.mp hg)

/-- A function in another one, with a variable that is not read. -/
def nested : Text :=
  "def _f():\n    def _g():\n        x = 1"

theorem count_nested :
    (treeOf nested).map (fun tree => tree.walk.countP fun f => UnreadIn f "x" 3) = some 2 := by
  decide +kernel

theorem variables_reported_nested :
    ∃ (tree : Node) (issues : List Issue) (reported : List (Text × Nat)),
      treeOf nested = some tree
      ∧ smells.run ⟨"app.py", nested⟩ none = .ok issues
      ∧ (ofType "unused_variable" issues).map Issue.about
        = reported.map (fun e => (some (.text e.1), (e.2 : Int)))
      ∧ reported.count ("x".toList, 3) = 2 := by
  obtain ⟨tree, htree, hcount⟩ := Option.map_eq_some_iff.mp count_nested
  have hruns : (smells.run ⟨"app.py", nested⟩ none).toOption.isSome = true := by
    decide +kernel
  obtain ⟨issues, hrun⟩ := Steps.exists_ok_of_isSome hruns
  obtain ⟨reported, habout, hreported, _⟩ := variables_reported htree hrun
  exact ⟨tree, issues, reported, htree, hrun, habout, (hreported "x" 3).trans hcount⟩

/-- It is reported twice, for each of the two functions. -/
theorem nested_variable_repeated :
    (smells.run ⟨"app.py", nested⟩ none).toOption.map
        (fun issues => (ofType "unused_variable" issues).map fun i => (i.line, i.message))
      = some [(3, "Variable 'x' is assigned but never used".toList),
        (3, "Variable 'x' is assigned but never used".toList)] := by
  decide +kernel

end Analysis

end CodeReview
