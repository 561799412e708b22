import CodeReview.Analysis.Complexity
import CodeReview.Analysis.Security
import CodeReview.Analysis.Smells
import CodeReview.Proofs.Lines
import CodeReview.Proofs.Steps
import CodeReview.Rules.Draft

/-!
# Checks that look at one line after another

Such a check keeps nothing in mind from line to line. What it finds in two texts, one below the
other, is what it finds in the first and then what it finds in the second, moved down by the lines
of the first. So it finds at most one issue on a line, from the top to the bottom.
-/

namespace CodeReview

/-- An issue that stands some lines further down, and is the same otherwise. -/
def Issue.down (n : Nat) (i : Issue) : Issue :=
  { i with line := i.line + n }

theorem Issue.down_line (n : Nat) (i : Issue) : (i.down n).line = i.line + n := rfl

/-! ## Texts below each other -/

theorem Text.lines_append (a b : Text) :
    Text.lines (a ++ '\n' :: b) = Text.lines a ++ Text.lines b := by
  induction a with
  | nil => rfl
  | cons c a ih =>
    rw [List.cons_append, lines, lines, ih]
    by_cases hc : c = '\n'
    · rw [if_pos hc, if_pos hc, List.cons_append]
    · rw [if_neg hc, if_neg hc]
      -- The character goes to the first line of `a`, and there is one.
      cases hl : lines a with
      | nil =>
        have hlength := length_lines a
        rw [hl, List.length_nil] at hlength
        omega
      | cons l ls => rfl

theorem Text.lines_of_not_mem {l : Text} (h : '\n' ∉ l) : Text.lines l = [l] := by
  induction l with
  | nil => rfl
  | cons c l ih =>
    rw [lines, ih (List.not_mem_of_not_mem_cons h), if_neg (List.ne_of_not_mem_cons h).symm]

theorem breaks_eq_zero_iff {t : Text} : Source.breaks t = 0 ↔ '\n' ∉ t := by
  unfold Source.breaks
  rw [List.countP_eq_zero]
  constructor
  · intro h hmem
    exact h '\n' hmem (by decide)
  · intro hfree c hc
    simpa using ne_of_mem_of_not_mem hc hfree

/-! ## The law of a check by lines -/

/-- A check of texts that is determined by what it finds in a single line: below another text, it
finds the same further down. -/
structure LineByLine (look scan : Text → Except Failure (List Issue)) : Prop where
  line : ∀ l : Text, '\n' ∉ l → scan l = look l
  append : ∀ a b : Text, scan (a ++ '\n' :: b) = do
    let first ← scan a
    let second ← scan b
    return first ++ second.map (·.down (Source.breaks a + 1))

/-- Issues from the top to the bottom of some lines, no two of them on one line. -/
structure Descending (lines : Nat) (issues : List Issue) : Prop where
  sorted : issues.Pairwise fun i j => i.line < j.line
  inside : ∀ i ∈ issues, 1 ≤ i.line ∧ i.line ≤ lines

/-- A check by lines that finds at most one issue in a line. -/
structure LineScanner (look scan : Text → Except Failure (List Issue)) : Prop
    extends LineByLine look scan where
  descending : ∀ {t : Text} {issues : List Issue}, scan t = .ok issues →
    Descending (Source.breaks t + 1) issues

namespace Descending

theorem of_length_le_one {issues : List Issue} (hone : issues.length ≤ 1)
    (hfirst : ∀ i ∈ issues, i.line = 1) : Descending 1 issues where
  sorted := by
    cases issues with
    | nil => exact .nil
    | cons i rest =>
      have hrest : rest = [] := by
        rw [List.length_cons] at hone
        exact List.eq_nil_of_length_eq_zero (by omega)
      rw [hrest]
      exact List.pairwise_singleton _ i
  inside i hi := by
    have hline := hfirst i hi
    omega

theorem append_down {m n : Nat} {first second : List Issue} (hfirst : Descending m first)
    (hsecond : Descending n second) : Descending (m + n) (first ++ second.map (·.down m)) where
  sorted := by
    rw [List.pairwise_append]
    refine ⟨hfirst.sorted, ?_, ?_⟩
    · rw [List.pairwise_map]
      apply hsecond.sorted.imp
      intro i j hij
      rw [Issue.down_line, Issue.down_line]
      omega
    · -- The first part ends on line `m`, and the second part begins below it.
      intro i hi j hj
      obtain ⟨k, hk, rfl⟩ := List.mem_map.mp hj
      have hlast := (hfirst.inside i hi).2
      have hstart := (hsecond.inside k hk).1
      rw [Issue.down_line]
      omega
  inside i hi := by
    rcases List.mem_append.mp hi with hi | hi
    · have hin := hfirst.inside i hi
      omega
    · obtain ⟨k, hk, rfl⟩ := List.mem_map.mp hi
      have hin := hsecond.inside k hk
      rw [Issue.down_line]
      omega

end Descending

/-- That there is at most one issue on a line follows from the law: line by line, the issues of the
rest are moved below those that come first. -/
theorem LineByLine.scanner {look scan : Text → Except Failure (List Issue)}
    (h : LineByLine look scan)
    (hlook : ∀ l issues, look l = .ok issues → issues.length ≤ 1 ∧ ∀ i ∈ issues, i.line = 1) :
    LineScanner look scan where
  toLineByLine := h
  descending {t issues} hissues := by
    -- By induction on the number of line feeds; the text is cut at the first one.
    induction hn : Source.breaks t generalizing t issues with
    | zero =>
      rw [h.line t (breaks_eq_zero_iff.mp hn)] at hissues
      have hfound := hlook t issues hissues
      exact .of_length_le_one hfound.1 hfound.2
    | succ n ih =>
      have hmem : '\n' ∈ t := by
        by_contra hfree
        have hzero := breaks_eq_zero_iff.mpr hfree
        omega
      obtain ⟨a, b, rfl, hfree⟩ := List.eq_append_cons_of_mem hmem
      have ha : Source.breaks a = 0 := breaks_eq_zero_iff.mpr hfree
      have hb : Source.breaks b = n := by
        rw [Source.breaks_append, Source.breaks_cons, if_pos rfl] at hn
        omega
      rw [h.append] at hissues
      obtain ⟨first, hfirst, hissues⟩ := Steps.bind_ok hissues
      obtain ⟨second, hsecond, hissues⟩ := Steps.bind_ok hissues
      obtain rfl := Except.ok.inj hissues
      rw [h.line a hfree] at hfirst
      have hfound := hlook a first hfirst
      have htop : Descending 1 first := .of_length_le_one hfound.1 hfound.2
      have hall := htop.append_down (ih hsecond hb)
      rw [ha, Nat.zero_add]
      rwa [Nat.add_comm 1 (n + 1)] at hall

/-! ## Looking at a line where it stands -/

/-- An issue on a line. -/
def Issue.onLine (i : Issue) (n : Nat) : Issue :=
  { i with line := n }

theorem Issue.down_onLine (i : Issue) (n k : Nat) : (i.onLine n).down k = i.onLine (n + k) := by
  simp [onLine, down]

/-- What a line gives, by its number: whatever the number is, it fails in the same way, or gives
nothing, or gives the same issue on the line itself. -/
inductive OnOwnLine (find : Nat → Except Failure (List Issue)) : Prop where
  | failed (e : Failure) (h : ∀ n, find n = .error e)
  | nothing (h : ∀ n, find n = .ok [])
  | issue (i : Issue) (h : ∀ n, find n = .ok [i.onLine n])

namespace OnOwnLine

variable {find : Nat → Except Failure (List Issue)}

/-- An issue that is made from the number, and has it only as its line. -/
theorem of_made {make : Nat → Issue} (hfind : ∀ n, find n = .ok [make n])
    (hmake : ∀ n, make n = (make 0).onLine n) : OnOwnLine find :=
  .issue (make 0) fun n => by rw [hfind, ← hmake]

theorem moved (h : OnOwnLine find) (n k : Nat) :
    find (n + k) = (find n).map (List.map (Issue.down k)) := by
  cases h with
  | failed e h =>
    rw [h, h]
    rfl
  | nothing h =>
    rw [h, h]
    rfl
  | issue i h =>
    rw [h, h, ← i.down_onLine]
    rfl

theorem alone (h : OnOwnLine find) {issues : List Issue} (hissues : find 1 = .ok issues) :
    issues.length ≤ 1 ∧ ∀ i ∈ issues, i.line = 1 := by
  cases h with
  | failed e h => exact nomatch (h 1).symm.trans hissues
  | nothing h =>
    obtain rfl := Except.ok.inj ((h 1).symm.trans hissues)
    simp
  | issue i h =>
    obtain rfl := Except.ok.inj ((h 1).symm.trans hissues)
    simp [Issue.onLine]

end OnOwnLine

/-- All lines of a text looked at by their numbers. -/
def scanLines (look : Nat → Text → Except Failure (List Issue)) (path t : Text) :
    Except Failure (List Issue) := do
  return (← Subject.numberedLines ⟨path, t⟩ |>.mapM fun p => look p.1 p.2).flatten

/-- A check that cannot fail takes the same way. -/
theorem scanLines_eq_scan (look : Text → Nat → Text → List Issue) (path t : Text) :
    scanLines (fun n l => .ok (look path n l)) path t = .ok (Subject.scan ⟨path, t⟩ look) := by
  rw [scanLines, Steps.mapM_ok (g := fun p : Nat × Text => look path p.1 p.2) fun _ _ => rfl]
  rfl

theorem numberedLines_append (path a b : Text) :
    Subject.numberedLines ⟨path, a ++ '\n' :: b⟩
      = Subject.numberedLines ⟨path, a⟩
        ++ (Subject.numberedLines ⟨path, b⟩).map fun p => (p.1 + (Source.breaks a + 1), p.2) := by
  unfold Subject.numberedLines
  rw [Text.lines_append, List.zipIdx_append, List.map_append, Text.length_lines,
    List.map_map, List.zipIdx_eq_map_add (i := 0 + (Source.breaks a + 1)), List.map_map]
  congr 1
  apply List.map_congr_left
  intro p _
  simp only [Function.comp_apply, Prod.mk.injEq, and_true]
  omega

section

variable {look : Nat → Text → Except Failure (List Issue)}
  (hlook : ∀ l, OnOwnLine fun n => look n l)
include hlook

theorem mapM_moved (k : Nat) (numbered : List (Nat × Text)) :
    (numbered.map fun p => (p.1 + k, p.2)).mapM (fun p => look p.1 p.2)
      = (numbered.mapM fun p => look p.1 p.2).map (List.map (List.map (Issue.down k))) := by
  rw [List.mapM_map]
  exact Steps.mapM_eq_map fun p => (hlook p.2).moved p.1 k

theorem scanLines_lineByLine (path : Text) : LineByLine (look 1) (scanLines look path) where
  line l hfree := by
    have hone : Subject.numberedLines ⟨path, l⟩ = [(1, l)] := by
      rw [Subject.numberedLines, Text.lines_of_not_mem hfree]
      rfl
    rw [scanLines, hone, List.mapM_cons, List.mapM_nil]
    cases look 1 l with
    | error e => rfl
    | ok issues => exact congrArg Except.ok (List.append_nil issues)
  append a b := by
    unfold scanLines
    rw [numberedLines_append, List.mapM_append, mapM_moved hlook]
    -- The first text may fail, else the second may; a failure is handed on as it is.
    cases (Subject.numberedLines ⟨path, a⟩).mapM fun p => look p.1 p.2 with
    | error e => rfl
    | ok first =>
      cases (Subject.numberedLines ⟨path, b⟩).mapM fun p => look p.1 p.2 with
      | error e => rfl
      | ok second =>
        change Except.ok (first ++ second.map (List.map (Issue.down _))).flatten
          = Except.ok (first.flatten ++ second.flatten.map (Issue.down _))
        rw [List.flatten_append, List.map_flatten]

theorem scanLines_scanner (path : Text) : LineScanner (look 1) (scanLines look path) :=
  (scanLines_lineByLine hlook path).scanner fun l _ hissues => (hlook l).alone hissues

end

theorem scan_scanner (look : Text → Nat → Text → List Issue) (path : Text)
    (hlook : ∀ l, OnOwnLine fun n => .ok (look path n l)) :
    LineScanner (fun l => .ok (look path 1 l)) fun t => .ok (Subject.scan ⟨path, t⟩ look) := by
  have hscan := scanLines_scanner hlook path
  rwa [funext (scanLines_eq_scan look path)] at hscan

/-! ## The checks -/

namespace Analysis

theorem onOwnLine_lineIssues (limit : Setting Number) (path l : Text) :
    OnOwnLine fun n => lineIssues limit path n l := by
  unfold lineIssues
  cases limit.exceededBy l.length with
  | error e => exact .failed e fun _ => rfl
  | ok long =>
    change OnOwnLine fun n => if (long && !mayBeLong l) = true then _ else _
    by_cases hlong : (long && !mayBeLong l) = true
    · exact .of_made (fun _ => if_pos hlong) fun _ => rfl
    · exact .nothing fun _ => if_neg hlong

theorem onOwnLine_secretIssues (path l : Text) :
    OnOwnLine fun n => .ok (secretIssues path n l) := by
  unfold secretIssues
  by_cases hcomment : Source.isCommentLine l = true
  · exact .nothing fun _ => by rw [if_pos hcomment]
  · by_cases hplaceholder : (placeholders.any fun p => Text.contains (Text.lower l) p) = true
    · exact .nothing fun _ => by rw [if_neg hcomment, if_pos hplaceholder]
    · simp only [if_neg hcomment, if_neg hplaceholder]
      cases secretNames.find? fun s => namesSecret s.1 l with
      | none => exact .nothing fun _ => rfl
      | some s => exact .of_made (fun _ => rfl) fun _ => rfl

theorem onOwnLine_todoIssues (path l : Text) : OnOwnLine fun n => .ok (todoIssues path n l) := by
  unfold todoIssues
  cases todoWords.findSome? fun w => (todoIn? w l).map fun p => (w, p) with
  | none => exact .nothing fun _ => rfl
  | some found => exact .of_made (fun _ => rfl) fun _ => rfl

theorem onOwnLine_commentedIssues (path l : Text) :
    OnOwnLine fun n => .ok (commentedIssues path n l) := by
  unfold commentedIssues
  dsimp only
  cases afterHash? (Text.strip l) with
  | none => exact .nothing fun _ => rfl
  | some t =>
    by_cases hcode : (10 ≤ (Text.strip l).length && looksLikeCode t) = true
    · exact .of_made (fun _ => congrArg Except.ok (if_pos hcode)) fun _ => rfl
    · exact .nothing fun _ => congrArg Except.ok (if_neg hcode)

end Analysis

theorem onOwnLine_patternIssues (id : Text) (p : Pattern) (message suggestion : Text)
    (severity : Rating) (path l : Text) :
    OnOwnLine fun n => .ok (patternIssues id p message suggestion severity path n l) := by
  unfold patternIssues
  by_cases hoccurs : p.occursIn l = true
  · exact .of_made (fun _ => congrArg Except.ok (if_pos hoccurs)) fun _ => rfl
  · exact .nothing fun _ => congrArg Except.ok (if_neg hoccurs)

theorem Draft.exists_of_pattern {d made : Draft} {pattern message suggestion : Text}
    (h : d.pattern pattern message suggestion = .ok made) :
    ∃ p, Pattern.read pattern = .ok p
      ∧ made.checker = some (lineChecker d.id p message suggestion) := by
  unfold Draft.pattern at h
  split at h
  · rename_i p hread
    obtain rfl := Except.ok.inj h
    exact ⟨p, hread, rfl⟩
  all_goals exact nomatch h

open Analysis in
/-- Long lines, secrets, open tasks, code in comments and the patterns of a draft are looked for
line by line: each of these checks is determined by what it finds in a single line, carries nothing
over to the next one, and finds at most one issue on a line, from the top to the bottom. -/
theorem scanners_line_by_line (path : Text) :
    (∀ limit : Setting Number,
      LineScanner (lineIssues limit path 1) fun t => lineLengthIssues limit ⟨path, t⟩)
    ∧ (LineScanner (fun l => .ok (secretIssues path 1 l))
        fun t => .ok (Subject.scan ⟨path, t⟩ secretIssues))
    ∧ (LineScanner (fun l => .ok (todoIssues path 1 l))
        fun t => .ok (Subject.scan ⟨path, t⟩ todoIssues))
    ∧ (LineScanner (fun l => .ok (commentedIssues path 1 l))
        fun t => .ok (Subject.scan ⟨path, t⟩ commentedIssues))
    ∧ ∀ {d made : Draft} {pattern message suggestion : Text},
        d.pattern pattern message suggestion = .ok made →
        ∃ p checker, Pattern.read pattern = .ok p ∧ made.checker = some checker
          ∧ ∀ (severity : Rating) (tree : Option Source.Node),
            LineScanner
              (fun l => .ok (patternIssues d.id p message suggestion severity path 1 l))
              fun t => checker severity ⟨path, t⟩ tree := by
  refine ⟨?_, ?_, ?_, ?_, ?_⟩
  · intro limit
    exact scanLines_scanner (onOwnLine_lineIssues limit path) path
  · exact scan_scanner secretIssues path (onOwnLine_secretIssues path)
  · exact scan_scanner todoIssues path (onOwnLine_todoIssues path)
  · exact scan_scanner commentedIssues path (onOwnLine_commentedIssues path)
  · intro d made pattern message suggestion hmade
    obtain ⟨p, hread, hchecker⟩ := Draft.exists_of_pattern hmade
    refine ⟨p, _, hread, hchecker, fun severity tree => ?_⟩
    exact scan_scanner (patternIssues d.id p message suggestion severity) path
      (onOwnLine_patternIssues d.id p message suggestion severity path)

/-- A draft of a rule against words with two of a letter in a row. -/
def doubled : Draft :=
  { id := "doubled" }

theorem scanners_line_by_line_doubled :
    ∃ made checker, doubled.pattern "([a-z])\\1" "Doubled" [] = .ok made
      ∧ made.checker = some checker
      ∧ (checker (.level .low) ⟨"a.py", "foo\nbar\n\nbaz = see"⟩ none).map (List.map Issue.line)
        = .ok [1, 4]
      ∧ ∀ {t : Text} {issues : List Issue},
        checker (.level .low) ⟨"a.py", t⟩ none = .ok issues →
          Descending (Source.breaks t + 1) issues := by
  have hlines : (Pattern.read "([a-z])\\1").toOption.map (fun p =>
      (Subject.scan ⟨"a.py", "foo\nbar\n\nbaz = see"⟩
        (patternIssues doubled.id p "Doubled" [] (.level .low))).map Issue.line)
      = some [1, 4] := by
    decide +kernel
  obtain ⟨p, hp, hlines⟩ := Option.map_eq_some_iff.mp hlines
  have hread : Pattern.read "([a-z])\\1" = .ok p := by
    cases hread : Pattern.read "([a-z])\\1" with
    | error e =>
      rw [hread] at hp
      exact nomatch hp
    | ok q =>
      rw [hread] at hp
      exact congrArg Except.ok (Option.some.inj hp)
  have hpattern : doubled.pattern "([a-z])\\1" "Doubled" []
      = .ok { doubled with checker := some (lineChecker doubled.id p "Doubled" []) } := by
    rw [Draft.pattern, hread]
  obtain ⟨_, checker, _, hchecker, hscanner⟩ := (scanners_line_by_line "a.py").2.2.2.2 hpattern
  refine ⟨_, checker, hpattern, hchecker, ?_, (hscanner (.level .low) none).descending⟩
  obtain rfl := Option.some.inj hchecker
  exact congrArg Except.ok hlines

end CodeReview
