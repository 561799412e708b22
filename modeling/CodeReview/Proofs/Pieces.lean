import CodeReview.Proofs.Marks
import CodeReview.Proofs.Summary
import CodeReview.Report.Page
import Mathlib.Data.List.Dedup

/-!
# What the pages of a report are put together from

Every piece of a page counts a mark as often as its frame does, which is the piece without texts,
and as often as the texts that it shows. The counts of the pieces add up to those of whole pages.
The style sheet and the numbers play no part in this: a number has no angle bracket.
-/

namespace CodeReview

/-! ## What a page shows -/

/-- The texts of an issue that its entry in a page shows. -/
def Issue.shown (i : Issue) : List Text :=
  [i.message, i.file, i.rule, i.code, i.suggestion]

/-- The name of the file stands in the title and in the heading. -/
def FileResult.shown (r : FileResult) : List Text :=
  [r.file, r.file] ++ if r.skipped then [] else r.issues.flatMap Issue.shown

/-- Each file with issues has one heading, however many issues it has. -/
def ReviewResult.shown (r : ReviewResult) : List Text :=
  r.byType.names ++ (r.issues.map (·.file)).dedup ++ r.issues.flatMap Issue.shown

def Outcome.shown : Outcome → List Text
  | .file r => r.shown
  | .review r => r.shown

theorem ReviewResult.rated_of_mem_issues {r : ReviewResult} (h : ∀ f ∈ r.files, f.Rated) :
    ∀ i ∈ r.issues, i.Rated := by
  intro i hi
  obtain ⟨f, hf, hin⟩ := List.mem_flatMap.mp hi
  exact h f hf i hin

namespace Report

/-! ## Issues under the headings of their files -/

theorem byFile_perm (issues : List Issue) : ((byFile issues).flatMap (·.2)).Perm issues :=
  Entries.foldl_gather_perm _ issues

/-- There is one heading for each file that an issue is in, where the file first appears. -/
theorem names_byFile (issues : List Issue) :
    (byFile issues).names = (issues.map (·.file)).eraseDups := by
  unfold byFile
  rw [Entries.names_foldl_gather, Entries.names_ofPairs, List.map_map]
  rfl

theorem names_byFile_perm (issues : List Issue) :
    (byFile issues).names.Perm (issues.map (·.file)).dedup := by
  have hnodup : (byFile issues).names.Nodup := by
    unfold byFile
    rw [Entries.names_foldl_gather]
    exact Entries.nodup_names_ofPairs _
  rw [List.perm_ext_iff_of_nodup hnodup (List.nodup_dedup _)]
  intro n
  rw [names_byFile, List.mem_eraseDups, List.mem_dedup]

/-! ## Pieces of a page -/

namespace Page

/-- A blank in the place of a text, if there is one. -/
def blank (missing : Bool) : Text :=
  if missing then [] else [' ']

/-- An issue without texts, or with a blank where it matters that there is one. -/
def blankIssue (noCode noAdvice : Bool) : Issue :=
  { type := [], severity := .level .info, file := [], line := 0, message := []
    code := blank noCode, suggestion := blank noAdvice }

section

variable (m : Mark)

theorem occurrences_badge (color name : Text) :
    m.occurrences (badge color name)
      = m.occurrences (badge [] []) + m.occurrences color + m.occurrences name := by
  -- With `implicitDefEqProofs` the kernel would compare the literals character by character.
  unfold badge
  simp -implicitDefEqProofs (disch := (apply framing_ofList; decide)) only [List.append_assoc,
    List.nil_append, m.counting]
  omega

theorem occurrences_entryHead (level : Severity) (i : Issue) :
    m.occurrences (entryHead level i)
      = m.occurrences (entryHead level (blankIssue true true))
        + m.occurrences i.message + m.occurrences i.file + m.occurrences i.rule := by
  unfold entryHead blankIssue
  simp -implicitDefEqProofs (disch := (apply framing_ofList; decide)) only [List.append_assoc,
    List.nil_append, m.counting, m.occurrences_of_not_mem (not_mem_ofInt _),
    m.occurrences_of_not_mem (not_mem_number _)]
  omega

theorem occurrences_block (kind text : Text) :
    m.occurrences (block kind text)
      = m.occurrences (block kind (blank text.isEmpty)) + m.occurrences text := by
  cases text with
  | nil => rfl
  | cons c cs =>
    have hblank : m.occurrences [' '] = 0 := m.occurrences_of_not_mem (by decide)
    unfold block blank
    simp only [List.isEmpty_cons, Bool.false_eq_true, if_false]
    simp -implicitDefEqProofs (disch := (apply framing_ofList; decide)) only [List.append_assoc,
      m.counting]
    omega

theorem startsFresh_block (kind text : Text) : StartsFresh (block kind text) := by
  unfold block
  split
  · exact startsFresh_nil
  · exact startsFresh_unlines _

theorem startsFresh_entry (level : Severity) (i : Issue) : StartsFresh (entry level i) := by
  unfold entry
  refine startsFresh_append (startsFresh_append (startsFresh_append ?_ ?_) ?_) ?_
  · exact startsFresh_unlines _
  · exact startsFresh_block _ _
  · exact startsFresh_block _ _
  · decide

theorem entry_pieces (level : Severity) (i : Issue) :
    m.occurrences (entry level i)
      = m.occurrences (entryHead level i) + m.occurrences (block "code-block" i.code)
        + m.occurrences (block "suggestion" i.suggestion) + m.occurrences "</div>".toList := by
  unfold entry
  rw [m.occurrences_append_fresh _ (by decide),
    m.occurrences_append_fresh _ (startsFresh_block _ _),
    m.occurrences_append_fresh _ (startsFresh_block _ _)]

theorem occurrences_entry (level : Severity) (i : Issue) :
    m.occurrences (entry level i)
      = m.occurrences (entry level (blankIssue i.code.isEmpty i.suggestion.isEmpty))
        + (i.shown.map m.occurrences).sum := by
  have hhead := occurrences_entryHead m level i
  have hcode := occurrences_block m "code-block" i.code
  have hadvice := occurrences_block m "suggestion" i.suggestion
  have hframe := occurrences_entryHead m level (blankIssue i.code.isEmpty i.suggestion.isEmpty)
  rw [entry_pieces, entry_pieces, hhead, hcode, hadvice, hframe]
  simp only [Issue.shown, blankIssue, List.map_cons, List.map_nil, List.sum_cons, List.sum_nil,
    m.occurrences_nil]
  omega

theorem occurrences_card (kind value label : Text) :
    ((card kind value label).map m.occurrences).sum
      = ((card kind [] []).map m.occurrences).sum + m.occurrences value + m.occurrences label := by
  unfold card
  simp -implicitDefEqProofs (disch := (apply framing_ofList; decide)) only [List.append_assoc,
    List.nil_append, m.counting, List.map_cons, List.map_nil, List.sum_cons, List.sum_nil]
  omega

/-- A number does not count. -/
theorem occurrences_card_of_not_mem (kind label : Text) {value : Text} (h : '<' ∉ value) :
    ((card kind value label).map m.occurrences).sum
      = ((card kind [] label).map m.occurrences).sum := by
  rw [occurrences_card m kind value, occurrences_card m kind [] label, m.occurrences_of_not_mem h,
    m.occurrences_nil]

theorem startsFresh_cards (cs : List (List Text)) : StartsFresh (cards cs) :=
  startsFresh_unlines _

theorem occurrences_cards (cs : List (List Text)) :
    m.occurrences (cards cs) = (cs.map fun c => (c.map m.occurrences).sum).sum := by
  unfold cards Text.sections
  rw [m.occurrences_unlines, List.map_flatten, List.sum_flatten]
  simp [Function.comp_def]

theorem occurrences_opening (title heading : Text) :
    ((opening title heading).map m.occurrences).sum
      = ((opening [] []).map m.occurrences).sum + m.occurrences title + m.occurrences heading := by
  unfold opening
  simp -implicitDefEqProofs (disch := (apply framing_ofList; decide)) only [List.append_assoc,
    List.nil_append, m.counting, List.map_cons, List.map_nil, List.sum_cons, List.sum_nil]
  omega

theorem occurrences_fileOpening (file : Text) :
    m.occurrences (fileOpening file)
      = ((opening "Code Review - " "📁 Code Review: ").map m.occurrences).sum
        + 2 * m.occurrences file := by
  unfold fileOpening
  rw [m.occurrences_unlines, List.map_append, List.sum_append,
    occurrences_opening m ("Code Review - ".toList ++ file),
    occurrences_opening m "Code Review - ".toList]
  simp -implicitDefEqProofs (disch := (apply framing_ofList; decide)) only [m.counting,
    List.map_cons, List.map_nil, List.sum_cons, List.sum_nil, m.occurrences_nil]
  omega

theorem occurrences_row (cell : Text) (count : Int) :
    m.occurrences (row cell count) = m.occurrences (row [] 0) + m.occurrences cell := by
  unfold row
  simp -implicitDefEqProofs (disch := (apply framing_ofList; decide)) only [List.append_assoc,
    List.nil_append, m.counting, m.occurrences_of_not_mem (not_mem_ofInt _)]
  omega

theorem occurrences_tableHead (title first : Text) :
    m.occurrences (tableHead title first)
      = m.occurrences (tableHead [] []) + m.occurrences title + m.occurrences first := by
  unfold tableHead
  simp -implicitDefEqProofs (disch := (apply framing_ofList; decide)) only [List.append_assoc,
    List.nil_append, m.counting]
  omega

theorem occurrences_group (file : Text) {issues : List Text} (h : ∀ t ∈ issues, StartsFresh t) :
    m.occurrences (group file issues)
      = m.occurrences (group [] []) + m.occurrences file + (issues.map m.occurrences).sum := by
  unfold group
  rw [m.occurrences_append_fresh _ (startsFresh_flatten h), m.occurrences_flatten h]
  simp -implicitDefEqProofs (disch := (apply framing_ofList; decide)) only [List.append_assoc,
    m.counting, List.flatten_nil, List.append_nil]
  omega

theorem occurrences_table (title first : Text) (rows : List (Text × Int)) :
    m.occurrences (table title first rows)
      = m.occurrences (tableHead [] []) + m.occurrences title + m.occurrences first
        + (rows.map fun e => m.occurrences (row [] 0) + m.occurrences e.1).sum
        + m.occurrences tableEnd := by
  have hrows : ∀ t ∈ rows.map fun e => row e.1 e.2, StartsFresh t :=
    List.forall_mem_map.mpr fun _ _ => startsFresh_unlines _
  have hcount : m.occurrences ∘ (fun e : Text × Int => row e.1 e.2)
      = fun e => m.occurrences (row [] 0) + m.occurrences e.1 :=
    funext fun e => occurrences_row m e.1 e.2
  have hend : StartsFresh tableEnd := startsFresh_unlines _
  unfold table
  rw [m.occurrences_append_fresh _ hend, m.occurrences_append_fresh _ (startsFresh_flatten hrows),
    m.occurrences_flatten hrows, occurrences_tableHead, List.map_map, hcount]

theorem occurrences_closing (more : Text) :
    m.occurrences (closing more) = m.occurrences (closing []) + m.occurrences more := by
  unfold closing
  simp -implicitDefEqProofs (disch := (apply framing_ofList; decide)) only [List.append_assoc,
    List.append_nil, m.counting]
  omega

theorem occurrences_fileMetrics (metrics : Option Metrics) :
    m.occurrences (fileMetrics metrics)
      = m.occurrences (fileMetrics (metrics.map fun _ => {})) := by
  cases metrics with
  | none => rfl
  | some n =>
    simp only [Option.map_some, fileMetrics, occurrences_cards, List.map_cons, List.map_nil,
      occurrences_card_of_not_mem m _ _ (not_mem_number _)]

theorem occurrences_reviewMetrics (metrics : Option Metrics) :
    m.occurrences (reviewMetrics metrics)
      = m.occurrences (reviewMetrics (metrics.map fun _ => {})) := by
  cases metrics with
  | none => rfl
  | some n =>
    simp only [Option.map_some, reviewMetrics, occurrences_cards, List.map_cons, List.map_nil,
      occurrences_card_of_not_mem m _ _ (not_mem_number _)]

theorem occurrences_scoreBar (r r' : ReviewResult) :
    m.occurrences (scoreBar r) = m.occurrences (scoreBar r') := by
  unfold scoreBar
  simp -implicitDefEqProofs (disch := (apply framing_ofList; decide)) only [List.append_assoc,
    m.counting, m.occurrences_of_not_mem (not_mem_ofInt _)]

theorem not_mem_letter (g : Grade) : '<' ∉ g.letter := by
  cases g <;> decide

theorem occurrences_scoreLines {now : Text} (hnow : '<' ∉ now) (r r' : ReviewResult) :
    ((scoreLines now r).map m.occurrences).sum = ((scoreLines [] r').map m.occurrences).sum := by
  have hscore (q : ReviewResult) : '<' ∉ Text.ofInt q.score ++ "/100".toList := by
    simp [not_mem_ofInt]
  have hgrade (q : ReviewResult) :
      m.occurrences ("Score (Grade: ".toList ++ (q.grade.letter ++ ")".toList)) = 0 := by
    apply m.occurrences_of_not_mem
    simp [not_mem_letter]
  have hnumber (q : ReviewResult) : ((card " score".toList (Text.ofInt q.score ++ "/100".toList)
      ("Score (Grade: ".toList ++ (q.grade.letter ++ ")".toList))).map m.occurrences).sum
      = ((card " score".toList [] []).map m.occurrences).sum := by
    rw [occurrences_card, m.occurrences_of_not_mem (hscore q), hgrade, Nat.add_zero]
  have hday : m.occurrences (dayAndTime now) = 0 :=
    m.occurrences_of_not_mem (not_mem_dayAndTime hnow)
  have hnone : m.occurrences (dayAndTime []) = 0 := rfl
  unfold scoreLines
  simp -implicitDefEqProofs (disch := (apply framing_ofList; decide)) only [List.append_assoc,
    m.counting, List.map_append, List.sum_append, List.map_cons, List.sum_cons, hday, hnone,
    hnumber, occurrences_card_of_not_mem m _ _ (not_mem_ofInt _),
    occurrences_card_of_not_mem m _ _ (not_mem_ofNat _)]

theorem occurrences_reviewOpening {now : Text} (hnow : '<' ∉ now) (r r' : ReviewResult) :
    m.occurrences (reviewOpening now r) = m.occurrences (reviewOpening [] r') := by
  unfold reviewOpening
  rw [m.occurrences_unlines, m.occurrences_unlines, List.map_append, List.map_append,
    List.sum_append, List.sum_append, occurrences_scoreLines m hnow r r']

/-- An entry at the issue's own level. -/
def ownEntry (i : Issue) : Text :=
  entry (i.severity.severity?.getD .info) i

/-- What the entry of an issue counts without its texts. -/
def entryFrame (i : Issue) : Nat :=
  m.occurrences
    (entry (i.severity.severity?.getD .info) (blankIssue i.code.isEmpty i.suggestion.isEmpty))

theorem startsFresh_ownEntries (issues : List Issue) :
    ∀ t ∈ issues.map ownEntry, StartsFresh t :=
  List.forall_mem_map.mpr fun i _ => startsFresh_entry _ i

theorem occurrences_ownEntries (issues : List Issue) :
    ((issues.map ownEntry).map m.occurrences).sum
      = (issues.map (entryFrame m)).sum + ((issues.flatMap Issue.shown).map m.occurrences).sum := by
  induction issues with
  | nil => rfl
  | cons i issues ih =>
    have hfirst : m.occurrences (ownEntry i) = entryFrame m i + (i.shown.map m.occurrences).sum :=
      occurrences_entry m _ i
    simp only [List.map_cons, List.sum_cons, List.flatMap_cons, List.map_append, List.sum_append,
      hfirst, ih]
    omega

theorem occurrences_issueCount (n n' : Nat) :
    m.occurrences (issueCount n) = m.occurrences (issueCount n') := by
  unfold issueCount
  simp only [occurrences_cards, List.map_cons, List.sum_cons,
    occurrences_card_of_not_mem m _ _ (not_mem_ofNat _)]

/-- What the page of a file counts without the texts and entries. -/
def fileFrame (measured : Option Metrics) (empty : Bool) : Nat :=
  ((opening "Code Review - " "📁 Code Review: ").map m.occurrences).sum
    + m.occurrences (issueCount 0) + m.occurrences (fileMetrics measured)
    + m.occurrences "</div>".toList
    + m.occurrences (if empty then [] else "<h2>Issues</h2>".toList) + m.occurrences (closing [])

theorem occurrences_filePage (r : FileResult) {issues : List Text}
    (h : ∀ t ∈ issues, StartsFresh t) :
    m.occurrences (filePage r issues)
      = fileFrame m (r.metrics.map fun _ => {}) r.issues.isEmpty + 2 * m.occurrences r.file
        + (issues.map m.occurrences).sum := by
  have hclosing : StartsFresh (closing []) := startsFresh_unlines _
  have hheading : StartsFresh (if r.issues.isEmpty then [] else "<h2>Issues</h2>".toList) := by
    split
    · exact startsFresh_nil
    · decide
  have hcount : StartsFresh (issueCount r.issues.length) := startsFresh_cards _
  have hmetrics : StartsFresh (fileMetrics r.metrics) := by
    cases r.metrics with
    | none => exact startsFresh_nil
    | some n => exact startsFresh_cards _
  unfold filePage fileFrame
  rw [m.occurrences_append_fresh _ hclosing, m.occurrences_append_fresh _ (startsFresh_flatten h),
    m.occurrences_append_fresh _ hheading, m.occurrences_append_fresh _ (by decide),
    m.occurrences_append_fresh _ hmetrics, m.occurrences_append_fresh _ hcount,
    m.occurrences_flatten h, occurrences_fileOpening, occurrences_fileMetrics,
    occurrences_issueCount m r.issues.length 0]
  omega

theorem occurrences_types (r : ReviewResult) :
    m.occurrences (types r)
      = (if r.byType.isEmpty then 0 else m.occurrences (table "Issues by Type" "Type" []))
        + r.byType.length
          * (m.occurrences (row [] 0) + m.occurrences ("<code>".toList ++ "</code>"))
        + (r.byType.names.map m.occurrences).sum := by
  have hcell (t : Text) : m.occurrences ("<code>".toList ++ t ++ "</code>".toList)
      = m.occurrences ("<code>".toList ++ "</code>") + m.occurrences t := by
    simp -implicitDefEqProofs (disch := (apply framing_ofList; decide)) only [List.append_assoc,
      m.counting]
    omega
  unfold types
  split
  · next hempty =>
    rw [List.isEmpty_iff.mp hempty]
    simp
  · next hnot =>
    have hperm : (byCount r.byType).Perm r.byType := List.mergeSort_perm _ _
    rw [occurrences_table, occurrences_table, List.map_map]
    simp only [Function.comp_def, hcell, ← Nat.add_assoc]
    rw [List.sum_map_add, List.map_const', List.sum_replicate_nat, hperm.length_eq,
      (hperm.map _).sum_eq, Entries.names, List.map_map, List.map_nil, List.sum_nil]
    simp only [Function.comp_def]
    omega

/-- What the page of a review says about its issues. -/
def ownDetails (r : ReviewResult) : Text :=
  if r.issues.isEmpty then []
  else "<h2>Detailed Issues</h2>".toList
    ++ ((byFile r.issues).map fun g => group g.1 (g.2.map ownEntry)).flatten

theorem occurrences_groups (groups : Entries (List Issue)) :
    m.occurrences (groups.map fun g => group g.1 (g.2.map ownEntry)).flatten
      = groups.length * m.occurrences (group [] []) + (groups.names.map m.occurrences).sum
        + (((groups.flatMap (·.2)).map ownEntry).map m.occurrences).sum := by
  have hfresh : ∀ t ∈ groups.map fun g => group g.1 (g.2.map ownEntry), StartsFresh t := by
    refine List.forall_mem_map.mpr fun g _ => ?_
    unfold group
    rw [List.append_assoc, List.append_assoc]
    exact (framing_ofList (by decide)).startsFresh_append _
  rw [m.occurrences_flatten hfresh]
  clear hfresh
  induction groups with
  | nil => simp
  | cons g groups ih =>
    obtain ⟨file, issues⟩ := g
    simp only [List.map_cons, List.sum_cons, List.length_cons, Nat.succ_mul, List.flatMap_cons,
      List.map_append, List.sum_append, Entries.names_cons,
      occurrences_group m _ (startsFresh_ownEntries _), ih]
    omega

theorem occurrences_ownDetails (r : ReviewResult) :
    m.occurrences (ownDetails r)
      = (if r.issues.isEmpty then 0 else m.occurrences "<h2>Detailed Issues</h2>".toList)
        + (r.issues.map (·.file)).dedup.length * m.occurrences (group [] [])
        + ((r.issues.map (·.file)).dedup.map m.occurrences).sum
        + (r.issues.map (entryFrame m)).sum
        + ((r.issues.flatMap Issue.shown).map m.occurrences).sum := by
  unfold ownDetails
  split
  · next hempty => simp [List.isEmpty_iff.mp hempty]
  · have hnames := names_byFile_perm r.issues
    have hlength : (byFile r.issues).length = (r.issues.map (·.file)).dedup.length := by
      rw [← hnames.length_eq, Entries.names, List.length_map]
    have hissues := ((byFile_perm r.issues).map ownEntry).map m.occurrences
    rw [m.occurrences_framing_append (by apply framing_ofList; decide), occurrences_groups,
      hissues.sum_eq, (hnames.map _).sum_eq, hlength, occurrences_ownEntries]
    omega

theorem startsFresh_table (title first : Text) (rows : List (Text × Int)) :
    StartsFresh (table title first rows) := by
  have hrows : ∀ t ∈ rows.map fun e => row e.1 e.2, StartsFresh t :=
    List.forall_mem_map.mpr fun _ _ => startsFresh_unlines _
  exact startsFresh_append (startsFresh_append (startsFresh_unlines _) (startsFresh_flatten hrows))
    (startsFresh_unlines _)

theorem startsFresh_ownDetails (r : ReviewResult) : StartsFresh (ownDetails r) := by
  unfold ownDetails
  split
  · exact startsFresh_nil
  · exact (framing_ofList (by decide)).startsFresh_append _

/-- What the page of a review counts without its tables and details. -/
def reviewFrame (measured : Option Metrics) : Nat :=
  m.occurrences (reviewOpening [] { timestamp := [] }) + m.occurrences (reviewMetrics measured)
    + m.occurrences (scoreBar { timestamp := [] })
    + m.occurrences (closing " - AI-Powered Code Review")

theorem occurrences_reviewPage {now : Text} (hnow : '<' ∉ now) (r : ReviewResult) {details : Text}
    (hdetails : StartsFresh details) :
    m.occurrences (reviewPage now r details)
      = reviewFrame m (r.metrics.map fun _ => {}) + m.occurrences (severities r)
        + m.occurrences (types r) + m.occurrences details := by
  have hclosing : StartsFresh (closing " - AI-Powered Code Review") := startsFresh_unlines _
  have htypes : StartsFresh (types r) := by
    unfold types
    split
    · exact startsFresh_nil
    · exact startsFresh_table _ _ _
  have hseverities : StartsFresh (severities r) := by
    unfold severities
    split
    · exact startsFresh_nil
    · exact startsFresh_table _ _ _
  have hbar : StartsFresh (scoreBar r) := startsFresh_unlines _
  have hmetrics : StartsFresh (reviewMetrics r.metrics) := by
    cases r.metrics with
    | none => exact startsFresh_nil
    | some n => exact startsFresh_cards _
  unfold reviewPage reviewFrame
  rw [m.occurrences_append_fresh _ hclosing, m.occurrences_append_fresh _ hdetails,
    m.occurrences_append_fresh _ htypes, m.occurrences_append_fresh _ hseverities,
    m.occurrences_append_fresh _ hbar, m.occurrences_append_fresh _ hmetrics,
    occurrences_reviewMetrics, occurrences_reviewOpening m hnow r { timestamp := [] },
    occurrences_scoreBar m r { timestamp := [] }]
  omega

end

/-! ## Pages as they are shown -/

theorem issue_of_rated {i : Issue} (h : i.Rated) : issue i = .ok (ownEntry i) := by
  obtain ⟨s, hs⟩ := h
  unfold issue ownEntry
  rw [hs]
  rfl

theorem details_of_rated {r : ReviewResult} (h : ∀ i ∈ r.issues, i.Rated) :
    details r = .ok (ownDetails r) := by
  have hgroups : ∀ g ∈ byFile r.issues, (do return group g.1 (← g.2.mapM issue))
      = (Except.ok (group g.1 (g.2.map ownEntry)) : Except Failure Text) := by
    intro g hg
    have hin : ∀ i ∈ g.2, i ∈ r.issues := fun i hi =>
      (byFile_perm r.issues).subset (List.mem_flatMap.mpr ⟨g, hg, hi⟩)
    rw [Steps.mapM_ok fun i hi => issue_of_rated (h i (hin i hi))]
    rfl
  unfold details ownDetails
  split
  · rfl
  · rw [Steps.mapM_ok hgroups]
    rfl

/-- The page of a file whose issues all have a level. -/
def ownFile (r : FileResult) : Text :=
  if r.skipped then skippedPage r.file else filePage r (r.issues.map ownEntry)

theorem file_of_rated {r : FileResult} (h : r.Rated) : file r = .ok (ownFile r) := by
  have hissues : r.issues.mapM issue = .ok (r.issues.map ownEntry) :=
    Steps.mapM_ok fun i hi => issue_of_rated (h i hi)
  unfold file ownFile
  rw [hissues]
  split <;> rfl

/-- What the page of a file counts without its texts. -/
def ownFileFrame (m : Mark) (r : FileResult) : Nat :=
  if r.skipped then m.occurrences (skippedPage [])
  else fileFrame m (r.metrics.map fun _ => {}) r.issues.isEmpty + (r.issues.map (entryFrame m)).sum

theorem skippedPage_pieces (m : Mark) (file : Text) :
    m.occurrences (skippedPage file)
      = m.occurrences (fileOpening file) + m.occurrences "<p><em>File was skipped</em></p>".toList
        + m.occurrences (closing []) := by
  have hclosing : StartsFresh (closing []) := startsFresh_unlines _
  unfold skippedPage
  rw [m.occurrences_append_fresh _ hclosing,
    m.counting.2.1 (by apply framing_ofList; decide)]

theorem occurrences_ownFile (m : Mark) (r : FileResult) :
    m.occurrences (ownFile r) = ownFileFrame m r + (r.shown.map m.occurrences).sum := by
  unfold ownFile ownFileFrame FileResult.shown
  split
  · rw [skippedPage_pieces, skippedPage_pieces, occurrences_fileOpening,
      occurrences_fileOpening m [], m.occurrences_nil]
    simp only [List.append_nil, List.map_cons, List.map_nil, List.sum_cons, List.sum_nil]
    omega
  · rw [occurrences_filePage m r (startsFresh_ownEntries r.issues), occurrences_ownEntries]
    simp only [List.map_append, List.sum_append, List.map_cons, List.map_nil, List.sum_cons,
      List.sum_nil]
    omega

theorem review_of_rated {r : ReviewResult} (h : ∀ f ∈ r.files, f.Rated) (now : Text) :
    review now r = .ok (reviewPage now r (ownDetails r)) := by
  unfold review
  rw [details_of_rated (ReviewResult.rated_of_mem_issues h)]
  rfl

/-- What the page of a review counts without its texts. -/
def ownReviewFrame (m : Mark) (r : ReviewResult) : Nat :=
  reviewFrame m (r.metrics.map fun _ => {}) + m.occurrences (severities r)
    + (if r.byType.isEmpty then 0 else m.occurrences (table "Issues by Type" "Type" []))
    + r.byType.length * (m.occurrences (row [] 0) + m.occurrences ("<code>".toList ++ "</code>"))
    + (if r.issues.isEmpty then 0 else m.occurrences "<h2>Detailed Issues</h2>".toList)
    + (r.issues.map (·.file)).dedup.length * m.occurrences (group [] [])
    + (r.issues.map (entryFrame m)).sum

theorem occurrences_ownReview (m : Mark) {now : Text} (hnow : '<' ∉ now) (r : ReviewResult) :
    m.occurrences (reviewPage now r (ownDetails r))
      = ownReviewFrame m r + (r.shown.map m.occurrences).sum := by
  unfold ownReviewFrame ReviewResult.shown
  rw [occurrences_reviewPage m hnow r (startsFresh_ownDetails r), occurrences_types,
    occurrences_ownDetails]
  simp only [List.map_append, List.sum_append]
  omega

end Page

end Report

end CodeReview
