import CodeReview.Proofs.Markup
import CodeReview.Proofs.Paths
import CodeReview.Report.Markdown

/-!
# Issues under the headings of their files

Reports in Markdown and pages tell every issue under a heading for the file that it is in. Which
file result holds an issue does not matter, only the file that the issue itself names. Both kinds of
report arrange the issues in the same way, which is a stable partition: the files in the order in
which they first appear, and below each of them its issues in the order in which they come.
-/

namespace CodeReview

namespace Report

/-! ## The arrangement -/

/-- Issues under headings for their files. -/
structure Arranged (issues : List Issue) (groups : Entries (List Issue)) : Prop where
  /-- Each file has one heading, where it first appears. -/
  headings : groups.names = (issues.map (·.file)).eraseDups
  /-- Below a heading stand exactly the issues of the file, in order. -/
  members : ∀ g ∈ groups, g.2 = issues.filter (·.file = g.1)
  /-- No issue is lost and none is repeated. -/
  perm : (groups.flatMap (·.2)).Perm issues

theorem arranged_byFile (issues : List Issue) : Arranged issues (byFile issues) where
  headings := names_byFile issues
  members := fun _ hg => (Entries.mem_foldl_gather_iff.mp hg).1
  perm := byFile_perm issues

theorem rated_of_mem_byFile {issues : List Issue} (h : ∀ i ∈ issues, i.Rated) :
    ∀ g ∈ byFile issues, ∀ i ∈ g.2, i.Rated := by
  intro g hg i hi
  exact h i ((byFile_perm issues).subset (List.mem_flatMap.mpr ⟨g, hg, hi⟩))

theorem isEmpty_byFile (issues : List Issue) : (byFile issues).isEmpty = issues.isEmpty := by
  rw [Bool.eq_iff_iff, List.isEmpty_iff, List.isEmpty_iff]
  constructor
  · intro h
    have hperm := byFile_perm issues
    rw [h] at hperm
    exact hperm.nil_eq.symm
  · rintro rfl
    rfl

/-! ## What the reports tell -/

namespace Markdown

variable (o : Markdown)

/-- What stands for a level in a title. -/
def label : Rating → Text
  | .level s =>
    let color : Severity → Text
      | .critical => "red" | .high => "orange" | .medium => "yellow" | .low => "blue"
      | .info => "lightgrey"
    if o.badges then
      "![" ++ s.title ++ "](https://img.shields.io/badge/-" ++ s.title ++ "-" ++ color s ++ ")"
    else "[" ++ s.toText.map Char.toUpper ++ "]"
  | .other t => t

/-- The lines that tell an issue. -/
def tale (i : Issue) : List Text :=
  List.flatten
    [["#### " ++ o.label i.severity ++ " " ++ i.message, [],
        "- **Location:** `" ++ i.file ++ ":" ++ (toString i.line).toList ++ ":" ++ i.column.toText
          ++ "`",
        "- **Rule:** `" ++ i.rule ++ "`"],
      if i.code = [] then [] else [[], "```python", i.code, "```"],
      if i.suggestion = [] then [] else [[], "> 💡 **Suggestion:** " ++ i.suggestion], [[]]]

/-- The lines that tell groups of issues: for each group the heading with the file, and below it
one issue after another. -/
def tales (groups : Entries (List Issue)) : List Text :=
  if groups = [] then []
  else "## Detailed Issues" :: [] :: groups.flatMap fun g =>
    ("### 📁 " ++ g.1 : Text) :: [] :: g.2.flatMap o.tale

/-- A report in Markdown tells these groups between its overview and its end. -/
def Tells (now : Text) (r : ReviewResult) (report : Text) (groups : Entries (List Issue)) : Prop :=
  report = ['\n'].intercalate (List.flatten [o.overview now r, o.tales groups,
    ["---", [], ("*Generated by [Paila SDK](https://github.com/saikrishnapaila/paila)"
      ++ " - AI-Powered Code Review*" : String)]])

end Markdown

namespace Page

/-- A text in a box, unless it is missing. -/
def boxed (kind text : Text) : Text :=
  if text = [] then []
  else ['\n'].intercalate
    [[], "            <div class=\"" ++ kind ++ "\">" ++ text ++ "</div>", []]

/-- The text that tells an issue. -/
def tale (i : Issue) : Text :=
  ['\n'].intercalate
    [[], "        <div class=\"issue-card " ++ i.severity.toText ++ "\">",
      "            <div class=\"issue-header\">",
      "                <span class=\"issue-message\">" ++ i.message ++ "</span>",
      "                " ++ ("<span class=\"severity-badge\" style=\"background: "
        ++ color i.severity ++ "\">" ++ i.severity.toText.map Char.toUpper ++ "</span>"),
      "            </div>",
      "            <div class=\"issue-location\">",
      "                📍 " ++ i.file ++ ":" ++ (toString i.line).toList ++ ":" ++ i.column.toText
        ++ " | Rule: <code>" ++ i.rule ++ "</code>",
      "            </div>", []]
    ++ boxed "code-block" i.code ++ boxed "suggestion" i.suggestion ++ "</div>".toList

/-- The text that tells groups of issues. -/
def tales (groups : Entries (List Issue)) : Text :=
  if groups = [] then []
  else "<h2>Detailed Issues</h2>".toList ++ groups.flatMap fun g =>
    ("<h3>📁 " ++ g.1 ++ "</h3>" ++ g.2.flatMap tale : Text)

/-- A page tells these groups between its tables and its end. -/
def Tells (now : Text) (r : ReviewResult) (page : Text) (groups : Entries (List Issue)) : Prop :=
  page = reviewOpening now r ++ reviewMetrics r.metrics ++ scoreBar r ++ severities r ++ types r
    ++ tales groups ++ closing " - AI-Powered Code Review"

end Page

theorem sections_eq_intercalate (groups : List (List Text)) :
    Text.sections groups = ['\n'].intercalate groups.flatten := by
  rw [Text.sections, Text.unlines, Text.join_eq_intercalate]

theorem ofNat_eq_toString (n : Nat) : Text.ofNat n = (toString n).toList := by
  rw [Nat.toString_eq_ofList_toDigits, String.toList_ofList]
  rfl

theorem ofInt_eq_toString (i : Int) : Text.ofInt i = (toString i).toList := by
  cases i with
  | ofNat n => exact ofNat_eq_toString n
  | negSucc n =>
    change _ = ("-" ++ toString (n + 1)).toList
    rw [String.toList_append, ← ofNat_eq_toString]
    rfl

namespace Markdown

variable (o : Markdown)

theorem issue_of_rated {i : Issue} (h : i.Rated) : o.issue i = .ok (o.tale i) := by
  obtain ⟨s, hs⟩ := h
  have htitle : o.title i = .ok ("#### " ++ o.label i.severity ++ " " ++ i.message) := by
    unfold title shout label
    rw [hs]
    split <;> cases s <;> rfl
  unfold issue tale
  rw [htitle, ofInt_eq_toString]
  simp only [List.isEmpty_iff]
  rfl

theorem details_of_rated {r : ReviewResult} (h : ∀ i ∈ r.issues, i.Rated) :
    o.details r = .ok (o.tales (byFile r.issues)) := by
  have hgroups : ∀ g ∈ byFile r.issues, (do return group g.1 (← g.2.mapM o.issue))
      = (Except.ok (group g.1 (g.2.map o.tale)) : Except Failure (List Text)) := by
    intro g hg
    rw [Steps.mapM_ok fun i hi => o.issue_of_rated (rated_of_mem_byFile h g hg i hi)]
    rfl
  unfold details tales
  rw [← isEmpty_byFile, Steps.mapM_ok hgroups]
  simp only [List.isEmpty_iff, List.flatMap_def]
  split
  · rfl
  · rfl

theorem exists_format_tells (now : Text) {r : ReviewResult} (h : ∀ i ∈ r.issues, i.Rated) :
    ∃ report, o.format now (.review r) = .ok report ∧ o.Tells now r report (byFile r.issues) := by
  refine ⟨_, ?_, rfl⟩
  change o.review now r = _
  unfold review
  rw [o.details_of_rated h, ← sections_eq_intercalate]
  rfl

end Markdown

namespace Page

theorem ownEntry_of_rated {i : Issue} (h : i.Rated) : ownEntry i = tale i := by
  obtain ⟨s, hs⟩ := h
  unfold ownEntry entry entryHead block tale boxed badge Text.unlines
  rw [hs, ofInt_eq_toString]
  simp only [List.isEmpty_iff, Text.join_eq_intercalate]
  rfl

theorem exists_format_tells (now : Text) {r : ReviewResult} (h : ∀ f ∈ r.files, f.Rated) :
    ∃ page, format now (.review r) = .ok page ∧ Tells now r page (byFile r.issues) := by
  have hissues := ReviewResult.rated_of_mem_issues h
  have hgroups : ∀ g ∈ byFile r.issues,
      group g.1 (g.2.map ownEntry) = group g.1 (g.2.map tale) := by
    intro g hg
    have hentries : g.2.map ownEntry = g.2.map tale :=
      List.map_congr_left fun i hi => ownEntry_of_rated (rated_of_mem_byFile hissues g hg i hi)
    rw [hentries]
  have hdetails : ownDetails r = tales (byFile r.issues) := by
    unfold ownDetails tales
    rw [← isEmpty_byFile, List.map_congr_left hgroups]
    simp only [List.isEmpty_iff, List.flatMap_def]
    split
    · rfl
    · rfl
  refine ⟨_, review_of_rated h now, ?_⟩
  rw [hdetails]
  rfl

end Page

/-- Reports in Markdown and pages tell the same groups of issues. There is one heading for each file
that an issue names, in the order of first appearance, and under it stand exactly the issues of the
file in their order, so that each issue is told once. -/
theorem details_arranged (o : Markdown) (now : Text) (r : ReviewResult)
    (h : ∀ f ∈ r.files, f.Rated) :
    ∃ groups, Arranged r.issues groups
      ∧ (∃ report, o.format now (.review r) = .ok report ∧ o.Tells now r report groups)
      ∧ ∃ page, Page.format now (.review r) = .ok page ∧ Page.Tells now r page groups :=
  ⟨byFile r.issues, arranged_byFile r.issues,
    o.exists_format_tells now (ReviewResult.rated_of_mem_issues h), Page.exists_format_tells now h⟩

/-- Two file results whose issues name two files in turn, and not always the file of the result. -/
def tangled : ReviewResult :=
  let issue (file : Text) (line : Int) : Issue :=
    { type := "long_line", severity := .level .low, file := file, line := line, message := "Long" }
  { files := [{ file := "a.py", issues := [issue "b.py" 1, issue "a.py" 2, issue "b.py" 3] },
      { file := "b.py", issues := [issue "a.py" 4] }]
    timestamp := [] }

theorem details_arranged_tangled :
    (∀ f ∈ tangled.files, f.Rated)
      ∧ ∃ groups, Arranged tangled.issues groups
        ∧ groups.map (fun g => (g.1, g.2.map (·.line)))
          = [("b.py".toList, [1, 3]), ("a.py".toList, [2, 4])]
        ∧ (∃ report, Markdown.format {} [] (.review tangled) = .ok report
          ∧ Markdown.Tells {} [] tangled report groups)
        ∧ ∃ page, Page.format [] (.review tangled) = .ok page
          ∧ Page.Tells [] tangled page groups := by
  have hrated : ∀ f ∈ tangled.files, f.Rated := by
    simp [tangled, FileResult.Rated, Issue.Rated]
  obtain ⟨groups, harranged, hreports⟩ := details_arranged {} [] tangled hrated
  refine ⟨hrated, groups, harranged, ?_, hreports⟩
  have hlines : groups.map (fun g => (g.1, g.2.map (·.line)))
      = groups.names.map fun n => (n, (tangled.issues.filter (·.file = n)).map (·.line)) := by
    rw [Entries.names, List.map_map]
    apply List.map_congr_left
    intro g hg
    rw [Function.comp_apply, harranged.members g hg]
  rw [hlines, harranged.headings]
  decide

end Report

end CodeReview
