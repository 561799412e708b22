import CodeReview.Proofs.Entries
import CodeReview.Proofs.Steps
import CodeReview.Proofs.Summary
import CodeReview.Review

/-!
# What the analyzers of the library find

Every issue that they find is rated with a level, never with another word, and stands on the line of
what it is about: the line of a node, or a line of the source that is looked at on its own. So
whatever asks for the level of such an issue gets one. What has to do with security is never rated
below `medium`.
-/

namespace CodeReview

/-- Rated with a level or a worse one. -/
def Issue.AtLeast (i : Issue) (s : Severity) : Prop :=
  ∃ t : Severity, i.severity = .level t ∧ t.rank ≤ s.rank

theorem Issue.AtLeast.rated {i : Issue} {s : Severity} (h : i.AtLeast s) : i.Rated := by
  obtain ⟨t, ht, _⟩ := h
  exact ⟨t, ht⟩

theorem Severity.rank_le_info (s : Severity) : s.rank ≤ info.rank := by
  cases s <;> decide

theorem Issue.AtLeast.mild {i : Issue} {s : Severity} (h : i.AtLeast s) : i.AtLeast .info := by
  obtain ⟨t, ht, _⟩ := h
  exact ⟨t, ht, t.rank_le_info⟩

/-- Rated with a level or a worse one, and on a line. -/
structure Issue.StandsAt (i : Issue) (least : Severity) (line : Int) : Prop where
  atLeast : i.AtLeast least
  line : i.line = line

/-- Issues that are all rated with a level or a worse one, and all on one line. -/
def StandAt (least : Severity) (line : Int) (issues : List Issue) : Prop :=
  ∀ i ∈ issues, i.StandsAt least line

namespace StandAt

variable {least : Severity} {line : Int} {i : Issue} {as bs : List Issue}

theorem none : StandAt least line [] :=
  List.forall_mem_nil _

theorem one (h : i.StandsAt least line) : StandAt least line [i] :=
  List.forall_mem_singleton.mpr h

theorem when (c : Prop) [Decidable c] (h : i.StandsAt least line) :
    StandAt least line (if c then [i] else []) := by
  split
  · exact one h
  · exact none

theorem otherwise (c : Prop) [Decidable c] (h : i.StandsAt least line) :
    StandAt least line (if c then [] else [i]) := by
  split
  · exact none
  · exact one h

theorem append (ha : StandAt least line as) (hb : StandAt least line bs) :
    StandAt least line (as ++ bs) :=
  List.forall_mem_append.mpr ⟨ha, hb⟩

end StandAt

variable {issues : List Issue}

namespace Analysis

open Source

variable (path : Text) (subject : Subject) (node tree : Node) (line : Text) (number : Nat)

/-! ## Security -/

theorem standsAt_issueAt {severity : Severity} (h : severity.rank ≤ Severity.medium.rank)
    (type message suggestion rule : Text) (metadata : List (Text × Value)) :
    (issueAt subject node type severity message suggestion rule metadata).StandsAt .medium
      node.line :=
  ⟨⟨severity, rfl, h⟩, rfl⟩

theorem secretIssues_standAt : StandAt .medium number (secretIssues path number line) := by
  unfold secretIssues
  split
  · exact .none
  split
  · exact .none
  split
  · exact .none
  · exact .one ⟨⟨.high, rfl, by decide⟩, rfl⟩

theorem queryIssues_standAt : StandAt .medium node.line (queryIssues subject node) := by
  unfold queryIssues
  split
  · exact .none
  · exact .one (standsAt_issueAt _ _ (by decide) ..)

theorem eq_of_queries {tree : Node} {found : List Issue} (h : queries subject tree = .ok found) :
    found = tree.walk.flatMap (queryIssues subject) := by
  unfold queries at h
  split at h
  · cases h
  · exact (Except.ok.inj h).symm

theorem commandIssues_standAt : StandAt .medium node.line (commandIssues subject node) := by
  unfold commandIssues
  split
  · exact .when _ (standsAt_issueAt _ _ (by split <;> decide) ..)
  · exact .none

theorem evalIssues_standAt : StandAt .medium node.line (evalIssues subject node) := by
  unfold evalIssues
  split
  · split
    · exact .none
    · exact .one (standsAt_issueAt _ _ (by decide) ..)
  · exact .none

theorem hashIssues_standAt : StandAt .medium node.line (hashIssues subject node) := by
  unfold hashIssues hashIssuesIn
  split
  · split
    · exact .none
    · exact .one (standsAt_issueAt _ _ (by decide) ..)
  · exact .none

theorem pickleIssues_standAt : StandAt .medium node.line (pickleIssues subject node) := by
  unfold pickleIssues
  split
  · exact .when _ (standsAt_issueAt _ _ (by decide) ..)
  · exact .none

theorem randomIssues_standAt : StandAt .medium node.line (randomIssues subject node) := by
  unfold randomIssues
  split
  · exact .when _ (standsAt_issueAt _ _ (by decide) ..)
  · exact .none

theorem pathIssues_standAt : StandAt .medium node.line (pathIssues subject node) := by
  unfold pathIssues
  split
  · exact .when _ (standsAt_issueAt _ _ (by decide) ..)
  · exact .none

/-! ## Smells -/

theorem standsAt_smellAt (type : Text) (severity : Severity) (message code suggestion rule : Text)
    (metadata : List (Text × Value)) :
    (smellAt path node type severity message code suggestion rule metadata).StandsAt .info
      node.line :=
  ⟨⟨severity, rfl, severity.rank_le_info⟩, rfl⟩

theorem docstringIssues_standAt : StandAt .info node.line (docstringIssues path node) := by
  unfold docstringIssues
  split
  · exact .otherwise _ (standsAt_smellAt ..)
  · exact .otherwise _ (standsAt_smellAt ..)
  · exact .none

theorem numberIssues_standAt {parent : Option Node}
    (h : numberIssues subject parent node = .ok issues) : StandAt .info node.line issues := by
  unfold numberIssues at h
  split at h
  · obtain rfl := Except.ok.inj h
    exact .none
  dsimp only at h
  split at h
  · obtain rfl := Except.ok.inj h
    exact .none
  split at h
  · exact absurd h (by simp)
  · obtain rfl := Except.ok.inj h
    exact .one (standsAt_smellAt ..)

theorem handlerIssues_standAt : StandAt .info node.line (handlerIssues subject node) := by
  unfold handlerIssues
  split
  · refine .append (.when _ (standsAt_smellAt ..)) ?_
    split
    · exact .one (standsAt_smellAt ..)
    · exact .none
  · exact .none

theorem todoIssues_standAt : StandAt .info number (todoIssues path number line) := by
  unfold todoIssues
  split
  · exact .none
  · exact .one ⟨⟨.info, rfl, by decide⟩, rfl⟩

theorem commentedIssues_standAt : StandAt .info number (commentedIssues path number line) := by
  unfold commentedIssues
  dsimp only
  split
  · exact .none
  · exact .when _ ⟨⟨.info, rfl, by decide⟩, rfl⟩

theorem starIssues_standAt : StandAt .info node.line (starIssues path node) := by
  unfold starIssues
  split
  · intro i hi
    obtain ⟨name, _, hname⟩ := List.mem_flatMap.mp hi
    split at hname
    · exact StandAt.when _ (standsAt_smellAt ..) i hname
    · exact absurd hname List.not_mem_nil
  · exact .none

theorem defaultIssues_standAt : StandAt .info node.line (defaultIssues path node) := by
  unfold defaultIssues
  split
  · exact .when _ (standsAt_smellAt ..)
  · exact .none

theorem printIssues_standAt : StandAt .info node.line (printIssues subject node) := by
  unfold printIssues
  split
  · exact .when _ (standsAt_smellAt ..)
  · exact .none

theorem standsAt_of_mem_importIssues {i : Issue} (h : i ∈ importIssues subject tree) :
    ∃ e ∈ tree.walk.flatMap boundNames, i.StandsAt .info e.2 := by
  unfold importIssues at h
  obtain ⟨e, he, hi⟩ := List.mem_filterMap.mp h
  refine ⟨e, Entries.mem_of_mem_ofPairs he, ?_⟩
  dsimp only at hi
  split at hi
  · exact absurd hi (by simp)
  · obtain rfl := Option.some.inj hi
    exact ⟨⟨.low, rfl, by decide⟩, rfl⟩

theorem standsAt_of_mem_variableIssues {i : Issue} (h : i ∈ variableIssues subject node) :
    ∃ e ∈ node.walk.flatMap assignedNames, i.StandsAt .info e.2 := by
  unfold variableIssues at h
  split at h
  · obtain ⟨e, he, hi⟩ := List.mem_filterMap.mp h
    refine ⟨e, Entries.mem_of_mem_ofPairs he, ?_⟩
    dsimp only at hi
    split at hi
    · exact absurd hi (by simp)
    · obtain rfl := Option.some.inj hi
      exact ⟨⟨.low, rfl, by decide⟩, rfl⟩
  · exact absurd h List.not_mem_nil

/-! ## Complexity -/

theorem classIssues_standAt : StandAt .info node.line (classIssues path node) := by
  unfold classIssues
  split
  · exact .when _ ⟨⟨.medium, rfl, by decide⟩, rfl⟩
  · exact .none

theorem functionIssues_standAt {s : Settings}
    (h : functionIssues s path node = .ok issues) : StandAt .info node.line issues := by
  unfold functionIssues at h
  split at h
  · obtain ⟨complex, _, h⟩ := Steps.bind_ok h
    obtain ⟨deep, _, h⟩ := Steps.bind_ok h
    obtain ⟨long, _, h⟩ := Steps.bind_ok h
    obtain ⟨many, _, h⟩ := Steps.bind_ok h
    obtain rfl := Except.ok.inj h
    refine .append (.append (.append ?_ ?_) ?_) ?_
    all_goals exact .when _ ⟨⟨_, rfl, Severity.rank_le_info _⟩, rfl⟩
  · obtain rfl := Except.ok.inj h
    exact .none

theorem lineIssues_standAt {limit : Setting Number}
    (h : lineIssues limit path number line = .ok issues) : StandAt .info number issues := by
  unfold lineIssues at h
  obtain ⟨long, _, h⟩ := Steps.bind_ok h
  split at h
  · obtain rfl := Except.ok.inj h
    exact .one ⟨⟨.info, rfl, by decide⟩, rfl⟩
  · obtain rfl := Except.ok.inj h
    exact .none

theorem fileLengthIssues_standAt {limit : Setting Number}
    (h : fileLengthIssues limit subject = .ok issues) : StandAt .info 1 issues := by
  unfold fileLengthIssues at h
  obtain ⟨long, _, h⟩ := Steps.bind_ok h
  split at h
  · obtain rfl := Except.ok.inj h
    exact .one ⟨⟨.low, rfl, by decide⟩, rfl⟩
  · obtain rfl := Except.ok.inj h
    exact .none

/-! ## All that they find -/

/-- All that look at one node and cannot fail. -/
def nodeDetectors (subject : Subject) : List (Node → List Issue) :=
  [queryIssues subject, commandIssues subject, evalIssues subject, hashIssues subject,
    pickleIssues subject, randomIssues subject, pathIssues subject, docstringIssues subject.path,
    handlerIssues subject, starIssues subject.path, defaultIssues subject.path,
    printIssues subject, classIssues subject.path]

/-- Nothing is found at a node. -/
structure Silent (subject : Subject) (node : Node) : Prop where
  find : ∀ find ∈ nodeDetectors subject, find node = []
  number : ∀ parent, numberIssues subject parent node = .ok []
  function : ∀ s, functionIssues s subject.path node = .ok []

/-- Only five forms of nodes have no place, and they are none of those that anything is found
at. -/
theorem silent_of_span?_eq_none {node : Node} (h : node.span? = none) : Silent subject node := by
  cases node with
  | module | clause | parameters | withItem | matchCase =>
    refine ⟨?_, fun _ => rfl, fun _ => rfl⟩
    simp only [nodeDetectors, List.forall_mem_cons]
    exact ⟨rfl, rfl, rfl, rfl, rfl, rfl, rfl, rfl, rfl, rfl, rfl, rfl, rfl, List.forall_mem_nil _⟩
  | _ => cases h

/-- Where an issue may stand: at a node that has a place, on a line of the source, where a name is
bound or assigned to, and on the first line. -/
inductive Place : Int → Prop where
  | node {n : Node} (h : n ∈ tree.walk) (hspan : n.span?.isSome) : Place n.line
  | below {p : Option Node × Node} (h : p ∈ tree.walkWithParent) (hspan : p.2.span?.isSome) :
    Place p.2.line
  | line {p : Nat × Text} (h : p ∈ subject.numberedLines) : Place p.1
  | bound {n : Node} {e : Text × Nat} (h : n ∈ tree.walk) (he : e ∈ boundNames n) : Place e.2
  | assigned {n m : Node} {e : Text × Nat} (hn : n ∈ tree.walk) (hm : m ∈ n.walk)
    (he : e ∈ assignedNames m) : Place e.2
  | first : Place 1

/-- Rated with a level or a worse one, at such a place. -/
structure Found (least : Severity) (i : Issue) : Prop where
  atLeast : i.AtLeast least
  place : Place subject tree i.line

section

variable {path subject node tree line number} {least : Severity} {issues : List Issue}

theorem found_of_standAt {spot : Int} (h : StandAt least spot issues)
    (hplace : issues ≠ [] → Place subject tree spot) : ∀ i ∈ issues, Found subject tree least i :=
  fun i hi => ⟨(h i hi).atLeast, (h i hi).line ▸ hplace (List.ne_nil_of_mem hi)⟩

theorem isSome_span? (hfound : issues ≠ []) (hnone : Silent subject node → issues = []) :
    node.span?.isSome :=
  Option.isSome_iff_ne_none.mpr fun h => hfound (hnone (silent_of_span?_eq_none subject h))

theorem found_at {find : Node → List Issue} (hfind : find ∈ nodeDetectors subject)
    (hn : node ∈ tree.walk) (h : StandAt least node.line (find node)) :
    ∀ i ∈ find node, Found subject tree least i :=
  found_of_standAt h fun hne => .node hn (isSome_span? hne fun hnone => hnone.find find hfind)

theorem found_walk {find : Node → List Issue} (hfind : find ∈ nodeDetectors subject)
    (h : ∀ n, StandAt least n.line (find n)) :
    ∀ i ∈ tree.walk.flatMap find, Found subject tree least i := by
  intro i hi
  obtain ⟨n, hn, hin⟩ := List.mem_flatMap.mp hi
  exact found_at hfind hn (h n) i hin

theorem found_scan {look : Text → Nat → Text → List Issue}
    (h : ∀ path (number : Nat) line, StandAt least number (look path number line)) :
    ∀ i ∈ subject.scan look, Found subject tree least i := by
  intro i hi
  obtain ⟨p, hp, hin⟩ := List.mem_flatMap.mp hi
  exact found_of_standAt (h _ _ _) (fun _ => .line hp) i hin

/-- What is found at many places, where looking at one may fail. -/
theorem found_mapM {α : Type} {look : α → Except Failure (List Issue)} {places : List α}
    {found : List (List Issue)} (hlook : places.mapM look = .ok found)
    (h : ∀ a ∈ places, ∀ issues, look a = .ok issues →
      ∀ i ∈ issues, Found subject tree least i) :
    ∀ i ∈ found.flatten, Found subject tree least i := by
  intro i hi
  obtain ⟨issues, hissues, hin⟩ := List.mem_flatten.mp hi
  obtain ⟨a, ha, hfound⟩ := Steps.exists_of_mem_mapM hlook hissues
  exact h a ha issues hfound i hin

/-- Nothing that has to do with security is mild. -/
theorem found_of_mem_securityIssues (h : securityIssues subject tree = .ok issues) :
    ∀ i ∈ issues, Found subject tree .medium i := by
  obtain ⟨_, hqueries, h⟩ := Steps.bind_ok h
  obtain rfl := Except.ok.inj h
  obtain rfl := eq_of_queries subject hqueries
  have hrandom : ∀ i ∈ if importsRandom subject.source then
      tree.walk.flatMap (randomIssues subject) else [], Found subject tree .medium i := by
    split
    · exact found_walk (by simp [nodeDetectors]) (randomIssues_standAt subject)
    · exact List.forall_mem_nil _
  simp only [List.forall_mem_append]
  refine ⟨⟨⟨⟨⟨⟨⟨?_, ?_⟩, ?_⟩, ?_⟩, ?_⟩, ?_⟩, hrandom⟩, ?_⟩
  · exact found_walk (by simp [nodeDetectors]) (queryIssues_standAt subject)
  · exact found_walk (by simp [nodeDetectors]) (commandIssues_standAt subject)
  · exact found_scan fun _ _ _ => secretIssues_standAt _ _ _
  · exact found_walk (by simp [nodeDetectors]) (evalIssues_standAt subject)
  · exact found_walk (by simp [nodeDetectors]) (hashIssues_standAt subject)
  · exact found_walk (by simp [nodeDetectors]) (pickleIssues_standAt subject)
  · exact found_walk (by simp [nodeDetectors]) (pathIssues_standAt subject)

theorem found_of_mem_smellIssues (h : smellIssues subject tree = .ok issues) :
    ∀ i ∈ issues, Found subject tree .info i := by
  obtain ⟨numbers, hnumbers, h⟩ := Steps.bind_ok h
  obtain rfl := Except.ok.inj h
  have hprint : ∀ i ∈ if isTestPath subject.path then []
      else tree.walk.flatMap (printIssues subject), Found subject tree .info i := by
    split
    · exact List.forall_mem_nil _
    · exact found_walk (by simp [nodeDetectors]) (printIssues_standAt subject)
  have hnumber : ∀ i ∈ numbers.flatten, Found subject tree .info i := by
    refine found_mapM hnumbers fun p hp issues hissues => ?_
    refine found_of_standAt (numberIssues_standAt subject p.2 hissues) fun hne => .below hp ?_
    exact isSome_span? hne fun hnone => Except.ok.inj (hissues.symm.trans (hnone.number p.1))
  have himport : ∀ i ∈ importIssues subject tree, Found subject tree .info i := by
    intro i hi
    obtain ⟨e, he, hstands⟩ := standsAt_of_mem_importIssues subject tree hi
    obtain ⟨n, hn, hen⟩ := List.mem_flatMap.mp he
    exact ⟨hstands.atLeast, hstands.line ▸ .bound hn hen⟩
  have hvariable : ∀ i ∈ tree.walk.flatMap (variableIssues subject),
      Found subject tree .info i := by
    intro i hi
    obtain ⟨n, hn, hin⟩ := List.mem_flatMap.mp hi
    obtain ⟨e, he, hstands⟩ := standsAt_of_mem_variableIssues subject n hin
    obtain ⟨m, hm, hem⟩ := List.mem_flatMap.mp he
    exact ⟨hstands.atLeast, hstands.line ▸ .assigned hn hm hem⟩
  simp only [List.forall_mem_append]
  refine ⟨⟨⟨⟨⟨⟨⟨⟨⟨?_, hnumber⟩, ?_⟩, ?_⟩, ?_⟩, himport⟩, hvariable⟩, ?_⟩, ?_⟩, hprint⟩
  · exact found_walk (by simp [nodeDetectors]) (docstringIssues_standAt subject.path)
  · exact found_walk (by simp [nodeDetectors]) (handlerIssues_standAt subject)
  · exact found_scan fun _ _ _ => todoIssues_standAt _ _ _
  · exact found_walk (by simp [nodeDetectors]) (starIssues_standAt subject.path)
  · exact found_scan fun _ _ _ => commentedIssues_standAt _ _ _
  · exact found_walk (by simp [nodeDetectors]) (defaultIssues_standAt subject.path)

theorem found_of_mem_complexityIssues {s : Settings}
    (h : complexityIssues s subject tree = .ok issues) :
    ∀ i ∈ issues, Found subject tree .info i := by
  obtain ⟨nodes, hnodes, h⟩ := Steps.bind_ok h
  obtain ⟨lines, hlines, h⟩ := Steps.bind_ok h
  obtain ⟨file, hfile, h⟩ := Steps.bind_ok h
  obtain rfl := Except.ok.inj h
  obtain ⟨byLine, hbyLine, hlines⟩ := Steps.bind_ok hlines
  obtain rfl := Except.ok.inj hlines
  simp only [List.forall_mem_append]
  refine ⟨⟨?_, ?_⟩, ?_⟩
  · refine found_mapM hnodes fun n hn issues hissues => ?_
    obtain ⟨function, hfunction, hissues⟩ := Steps.bind_ok hissues
    obtain rfl := Except.ok.inj hissues
    refine List.forall_mem_append.mpr ⟨?_, ?_⟩
    · refine found_of_standAt (functionIssues_standAt _ n hfunction) fun hne => .node hn ?_
      exact isSome_span? hne fun hnone => Except.ok.inj (hfunction.symm.trans (hnone.function s))
    · exact found_at (by simp [nodeDetectors]) hn (classIssues_standAt _ n)
  · refine found_mapM hbyLine fun p hp issues hissues => ?_
    exact found_of_standAt (lineIssues_standAt _ _ _ hissues) fun _ => .line hp
  · exact found_of_standAt (fileLengthIssues_standAt subject hfile) fun _ => .first

end

end Analysis

/-- What the analyzers of the library find is found in the tree of the source. -/
theorem Reviewer.found_of_mem_builtin {s : Settings} {a : Analyzer} (ha : a ∈ builtin s)
    {subject : Subject} {given : Option Source.Node}
    (h : a.run subject given = .ok issues) :
    ∀ i ∈ issues, ∃ tree, subject.tree? given = some tree
      ∧ Analysis.Found subject tree .info i := by
  simp only [builtin, List.mem_cons, List.not_mem_nil, or_false] at ha
  intro i hi
  rcases ha with rfl | rfl | rfl
  all_goals
    simp only [Analysis.complexity, Analysis.security, Analysis.smells, Analyzer.onTree] at h
    split at h
    rotate_left
    · obtain rfl := Except.ok.inj h
      exact absurd hi List.not_mem_nil
  · next tree htree => exact ⟨tree, htree, Analysis.found_of_mem_complexityIssues h i hi⟩
  · next tree htree =>
    have hfound := Analysis.found_of_mem_securityIssues h i hi
    exact ⟨tree, htree, hfound.atLeast.mild, hfound.place⟩
  · next tree htree => exact ⟨tree, htree, Analysis.found_of_mem_smellIssues h i hi⟩

/-- The analyzers of the library rate all that they find with levels. -/
theorem Reviewer.rated_of_mem_builtin {s : Settings} {a : Analyzer} (ha : a ∈ builtin s)
    {subject : Subject} {given : Option Source.Node}
    (h : a.run subject given = .ok issues) : ∀ i ∈ issues, i.Rated := by
  intro i hi
  obtain ⟨_, _, hfound⟩ := found_of_mem_builtin ha h i hi
  exact hfound.atLeast.rated

end CodeReview
