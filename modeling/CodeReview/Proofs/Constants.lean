import CodeReview.Proofs.Smells

/-!
# Numbers in definitions of constants

A number needs no explanation where it is given to a name in capitals. Whether it is, is seen in two
ways: by the statement that the number stands in directly, and by the start of its line. The first
does not see a number behind a minus sign or a type hint, since then it stands directly in something
else. The second sees names of letters from A to Z and underscores only, at the start of a line and
with nothing but blanks before the equals sign.
-/

namespace CodeReview.Analysis

open Source

/-! ## Lines that define a constant -/

/-- The line starts with capitals and underscores, and then has blanks and an equals sign. -/
def StartsDefinition (line : Text) : Prop :=
  ∃ name blanks rest, line = name ++ (blanks ++ '=' :: rest) ∧ name ≠ []
    ∧ (∀ c ∈ name, isCapital c = true) ∧ ∀ c ∈ blanks, Text.isBlank c = true

theorem isCapital_toNat {c : Char} (h : isCapital c = true) : 64 < c.toNat ∧ c.toNat < 96 := by
  rw [isCapital, Bool.or_eq_true, Bool.and_eq_true, decide_eq_true_iff, decide_eq_true_iff,
    decide_eq_true_iff] at h
  rcases h with ⟨hlow, hhigh⟩ | rfl
  · have hlow' : 'A'.toNat ≤ c.toNat := hlow
    have hhigh' : c.toNat ≤ 'Z'.toNat := hhigh
    change 65 ≤ c.toNat at hlow'
    change c.toNat ≤ 90 at hhigh'
    omega
  · decide

theorem isCapital_of_isBlank {c : Char} (h : Text.isBlank c = true) : isCapital c = false := by
  by_contra hcapital
  obtain ⟨hlow, hhigh⟩ := isCapital_toNat (Bool.eq_true_of_not_eq_false hcapital)
  simp only [Text.isBlank, Bool.or_eq_true, Bool.and_eq_true, decide_eq_true_iff] at h
  omega

theorem definesConstant_iff {line : Text} :
    definesConstant line = true ↔ StartsDefinition line := by
  rw [definesConstant, Bool.and_eq_true, decide_eq_true_iff]
  constructor
  · rintro ⟨hname, hsign⟩
    obtain ⟨rest, hrest⟩ := List.head?_eq_some_iff.mp hsign
    refine ⟨line.takeWhile isCapital, (line.dropWhile isCapital).takeWhile Text.isBlank, rest, ?_,
      by simpa using hname, List.all_eq_true.mp List.all_takeWhile,
      List.all_eq_true.mp List.all_takeWhile⟩
    rw [← hrest, Text.stripLeft, List.takeWhile_append_dropWhile, List.takeWhile_append_dropWhile]
  · rintro ⟨name, blanks, rest, rfl, hne, hname, hblanks⟩
    -- What follows the name starts with a blank or the equals sign, so the name ends there.
    obtain ⟨c, cs, hcs, hc⟩ : ∃ c cs, blanks ++ '=' :: rest = c :: cs ∧ isCapital c = false := by
      cases blanks with
      | nil => exact ⟨'=', rest, rfl, by decide⟩
      | cons c cs => exact ⟨c, _, rfl, isCapital_of_isBlank (hblanks c List.mem_cons_self)⟩
    rw [hcs, List.takeWhile_append_of_pos hname, List.dropWhile_append_of_pos hname,
      List.takeWhile_cons_of_neg (by simp [hc]), List.dropWhile_cons_of_neg (by simp [hc]), ← hcs,
      Text.stripLeft, List.dropWhile_append_of_pos hblanks]
    refine ⟨by simpa using hne, ?_⟩
    rw [List.dropWhile_cons_of_neg (by decide)]
    rfl

/-! ## Definitions -/

/-- A statement that gives a value to a name, with or without a type hint. -/
def definition (span : Span) (target : Node) (hint : Option Node) (value : Node) : Node :=
  match hint with
  | none => .assign span [target] value
  | some hint => .annAssign span target hint (some value)

/-- A literal with a minus sign at a place before it, or as it is. -/
def signed (minus : Option Span) (literal : Node) : Node :=
  match minus with
  | none => literal
  | some span => .unary span .minus literal

/-- What a literal stands in directly: its minus sign, or the whole statement. -/
def holder (minus : Option Span) (literal statement : Node) : Node :=
  match minus with
  | none => statement
  | some span => .unary span .minus literal

theorem value_mem_children (span : Span) (target : Node) (hint : Option Node) (value : Node) :
    value ∈ (definition span target hint value).children := by
  cases hint <;> simp [definition, Node.children]

theorem mem_walkWithParent_holder {tree : Node} {span : Span} {target : Node} {hint : Option Node}
    {minus : Option Span} {literal : Node}
    (h : definition span target hint (signed minus literal) ∈ tree.walk) :
    (some (holder minus literal (definition span target hint (signed minus literal))), literal)
      ∈ tree.walkWithParent := by
  have hvalue := value_mem_children span target hint (signed minus literal)
  cases minus with
  | none => exact Node.mem_walkWithParent h hvalue
  | some s =>
    -- The statement has the sign as its child, and the sign the literal.
    refine Node.mem_walkWithParent ?_ (List.mem_singleton.mpr rfl)
    exact Node.mem_walk_iff.mpr ((Node.mem_walk_iff.mp h).tail hvalue)

theorem explainedBy_holder {id : Text} (hid : Text.isAllUpper id = true) (span s : Span) (use : Use)
    (hint : Option Node) (minus : Option Span) (literal : Node) (n : Number) :
    explainedBy (some (holder minus literal
        (definition span (.name s id use) hint (signed minus literal)))) n = true
      ↔ hint = none ∧ minus = none := by
  cases minus with
  | none =>
    cases hint with
    | none => simp [holder, definition, explainedBy, hid]
    | some hint => simp [holder, definition, explainedBy]
  | some s => simp [holder, explainedBy]

theorem numberIssues_eq_nil_iff {subject : Subject} {parent : Option Node} {literal : Node} :
    numberIssues subject parent literal = .ok []
      ↔ ∀ n, literalNumber? literal = some n → isPlainNumber n = true
        ∨ explainedBy parent n = true ∨ StartsDefinition (subject.line literal.line) := by
  unfold numberIssues
  split
  · next hnone => simp [hnone]
  · next n hsome =>
    simp only [← definesConstant_iff, hsome, Option.some.injEq, forall_eq', ← Bool.or_eq_true,
      ← Bool.or_assoc]
    split
    · next hquiet => exact iff_of_true rfl hquiet
    · next hquiet =>
      refine iff_of_false ?_ hquiet
      split <;> simp

/-- At a literal there is at most one issue, and it stands where the literal does. -/
theorem numberIssues_place {subject : Subject} {parent : Option Node} {literal : Node}
    {issues : List Issue} (h : numberIssues subject parent literal = .ok issues)
    (hne : issues ≠ []) : ∃ i, issues = [i] ∧ i.place = literal.place := by
  unfold numberIssues at h
  split at h
  · exact absurd (Except.ok.inj h).symm hne
  dsimp only at h
  split at h
  · exact absurd (Except.ok.inj h).symm hne
  split at h
  · exact nomatch h
  · exact ⟨_, (Except.ok.inj h).symm, rfl⟩

/-- Let a source that can be parsed have a statement that gives a literal, with or without a minus
sign, to a name in capitals. Then nothing is found at the literal just if it stands in an assignment
without a minus sign and without a type hint, or is a number that needs no explanation, or if its
line starts like the definition of a constant. What is found at all literals is what is reported, so
that else, unless looking at the source fails, an issue stands where the literal does. -/
theorem definition_quiet_iff {source : Text} {tree : Node} (htree : treeOf source = some tree)
    (path : Text) {id : Text} (hid : Text.isAllUpper id = true) {span s place : Span} {use : Use}
    {hint : Option Node} {minus : Option Span} {value : Constant}
    (h : definition span (.name s id use) hint (signed minus (.constant place value)) ∈ tree.walk) :
    let subject : Subject := ⟨path, source⟩
    let literal := Node.constant place value
    let statement := definition span (.name s id use) hint (signed minus literal)
    let parent := holder minus literal statement
    (some parent, literal) ∈ tree.walkWithParent
      ∧ (numberIssues subject (some parent) literal = .ok []
        ↔ (hint = none ∧ minus = none)
          ∨ (∀ n, literalNumber? literal = some n → isPlainNumber n = true)
          ∨ StartsDefinition (subject.line place.line))
      ∧ ∀ issues, smells.run subject none = .ok issues →
        (∃ found, List.Forall₂ (fun p is => numberIssues subject p.1 p.2 = .ok is)
            tree.walkWithParent found ∧ ofType "magic_number" issues = found.flatten)
        ∧ (numberIssues subject (some parent) literal ≠ .ok [] →
          ∃ i ∈ ofType "magic_number" issues, i.place = literal.place) := by
  intro subject literal statement parent
  have hwalk : (some parent, literal) ∈ tree.walkWithParent := mem_walkWithParent_holder h
  refine ⟨hwalk, ?_, ?_⟩
  · rw [numberIssues_eq_nil_iff]
    simp only [parent, statement, explainedBy_holder hid]
    change (∀ n, _ → _ ∨ _ ∨ StartsDefinition (subject.line place.line)) ↔ _
    -- Neither the statement nor the line depends on the number.
    by_cases hdirect : hint = none ∧ minus = none
    · exact iff_of_true (fun _ _ => .inr (.inl hdirect)) (.inl hdirect)
    · by_cases hline : StartsDefinition (subject.line place.line)
      · exact iff_of_true (fun _ _ => .inr (.inr hline)) (.inr (.inr hline))
      · simp only [hdirect, hline, or_false, false_or]
  · intro issues hrun
    rw [run_smells htree] at hrun
    obtain ⟨⟨found, hmapM, hfound⟩, _⟩ := ofType_smellIssues hrun
    refine ⟨⟨found, Steps.forall₂_of_mapM hmapM, hfound⟩, fun hloud => ?_⟩
    obtain ⟨here, hmem, hhere⟩ := Steps.exists_mem_of_mapM hmapM hwalk
    have hne : here ≠ [] := fun hnil => hloud (hnil ▸ hhere)
    obtain ⟨i, rfl, hplace⟩ := numberIssues_place hhere hne
    refine ⟨i, ?_, hplace⟩
    rw [hfound]
    exact List.mem_flatten.mpr ⟨_, hmem, List.mem_singleton.mpr rfl⟩

/-- A minus sign, on a line that starts with another statement. -/
def crowded : Text :=
  "a = 1; RATE = -42"

/-- The second statement of that line. -/
def definesRate : Node → Bool
  | .assign _ [.name _ id _] (.unary _ .minus (.constant place (.int 42))) =>
    id = "RATE".toList && place.line = 1
  | _ => false

theorem exists_of_definesRate {n : Node} (h : definesRate n = true) :
    ∃ span s place sign use, n = definition span (.name s "RATE" use) none
      (signed (some sign) (.constant place (.int 42))) ∧ place.line = 1 := by
  unfold definesRate at h
  split at h
  · rw [Bool.and_eq_true, decide_eq_true_iff, decide_eq_true_iff] at h
    obtain ⟨rfl, hline⟩ := h
    exact ⟨_, _, _, _, _, rfl, hline⟩
  · exact nomatch h

theorem not_startsDefinition_crowded :
    ¬ StartsDefinition (Subject.line ⟨"app.py", crowded⟩ 1) := by
  rw [← definesConstant_iff]
  decide +kernel

theorem definition_quiet_iff_crowded :
    Text.isAllUpper "RATE" = true
      ∧ ∃ tree span s place sign use issues, treeOf crowded = some tree
        ∧ definition span (.name s "RATE" use) none
          (signed (some sign) (.constant place (.int 42))) ∈ tree.walk
        ∧ smells.run ⟨"app.py", crowded⟩ none = .ok issues
        ∧ ∃ i ∈ ofType "magic_number" issues, i.place = Node.place (.constant place (.int 42)) := by
  have hparsed : (treeOf crowded).map (fun tree => tree.walk.any definesRate) = some true := by
    decide +kernel
  have hruns : (smells.run ⟨"app.py", crowded⟩ none).toOption.isSome = true := by
    decide +kernel
  have hcapitals : Text.isAllUpper "RATE" = true := by decide
  obtain ⟨tree, htree, hany⟩ := Option.map_eq_some_iff.mp hparsed
  obtain ⟨issues, hrun⟩ := Steps.exists_ok_of_isSome hruns
  obtain ⟨n, hn, hrate⟩ := List.any_eq_true.mp hany
  obtain ⟨span, s, place, sign, use, rfl, hline⟩ := exists_of_definesRate hrate
  obtain ⟨_, hquiet, hreported⟩ := definition_quiet_iff htree "app.py" hcapitals hn
  obtain ⟨_, hissue⟩ := hreported issues hrun
  refine ⟨hcapitals, tree, span, s, place, sign, use, issues, htree, hn, hrun, hissue ?_⟩
  rw [ne_eq, hquiet, hline]
  rintro (⟨_, hminus⟩ | hplain | hstart)
  · exact nomatch hminus
  · exact absurd (hplain (.int 42) rfl) (by decide)
  · exact not_startsDefinition_crowded hstart

/-- A constant with a type hint. -/
def hinted : Text :=
  "LIMIT: int = 42"

def definesLimit : Node → Bool
  | .annAssign _ (.name _ id _) _ (some (.constant _ (.int 42))) => id = "LIMIT".toList
  | _ => false

/-- The number is reported although it is given to a name in capitals. -/
theorem hinted_constant_reported :
    Text.isAllUpper "LIMIT" = true
      ∧ (treeOf hinted).map (fun tree => tree.walk.any definesLimit) = some true
      ∧ (smells.run ⟨"app.py", hinted⟩ none).toOption.map
          (fun issues => (ofType "magic_number" issues).map fun i => (i.line, i.message))
        = some [(1, "Magic number: 42".toList)] := by
  decide +kernel

end CodeReview.Analysis
