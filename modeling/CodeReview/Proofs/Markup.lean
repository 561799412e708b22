import CodeReview.Proofs.Pieces

/-!
# Markup from outside

No text is changed on its way into a page, so whatever markup a text has is markup of the page. A
page has each of its tags once for itself and once more for every place where a text that it shows
has that tag; and two results that differ in their texts only give pages with equally many angle
brackets just if their texts have equally many. Nothing else that a page shows can add markup:
numbers, levels, grades and the style sheet have no angle bracket.
-/

namespace CodeReview

/-! ## Results of the same shape -/

/-- Differ in texts at most, and not in whether there is one. -/
structure Issue.SameShape (i j : Issue) : Prop where
  severity : i.severity = j.severity
  code : i.code.isEmpty = j.code.isEmpty
  suggestion : i.suggestion.isEmpty = j.suggestion.isEmpty

structure FileResult.SameShape (r r' : FileResult) : Prop where
  issues : List.Forall₂ Issue.SameShape r.issues r'.issues
  metrics : r.metrics.isSome = r'.metrics.isSome
  skipped : r.skipped = r'.skipped

/-- The issues of two reviews also fall into equally many files. -/
structure ReviewResult.SameShape (r r' : ReviewResult) : Prop where
  files : List.Forall₂ FileResult.SameShape r.files r'.files
  issueFiles : (r.issues.map (·.file)).dedup.length = (r'.issues.map (·.file)).dedup.length
  bySeverity : r.bySeverity = r'.bySeverity
  byType : r.byType.length = r'.byType.length
  metrics : r.metrics.isSome = r'.metrics.isSome

def Outcome.SameShape : Outcome → Outcome → Prop
  | .file r, .file r' => r.SameShape r'
  | .review r, .review r' => r.SameShape r'
  | _, _ => False

def Outcome.Rated : Outcome → Prop
  | .file r => r.Rated
  | .review r => ∀ f ∈ r.files, f.Rated

theorem forall_mem_of_forall₂ {α β : Type} {R : α → β → Prop} {P : α → Prop} {Q : β → Prop}
    {as : List α} {bs : List β} (h : List.Forall₂ R as bs) (hstep : ∀ a b, R a b → P a → Q b)
    (hall : ∀ a ∈ as, P a) : ∀ b ∈ bs, Q b := by
  induction h with
  | nil => exact fun b hb => absurd hb List.not_mem_nil
  | cons hab _ ih =>
    rw [List.forall_mem_cons] at hall ⊢
    exact ⟨hstep _ _ hab hall.1, ih hall.2⟩

theorem FileResult.SameShape.rated {r r' : FileResult} (h : r.SameShape r') (hr : r.Rated) :
    r'.Rated := by
  have hstep : ∀ i j : Issue, i.SameShape j → i.Rated → j.Rated := by
    rintro i j hij ⟨s, hs⟩
    exact ⟨s, hij.severity ▸ hs⟩
  exact forall_mem_of_forall₂ h.issues hstep hr

theorem Outcome.SameShape.rated {o o' : Outcome} (h : o.SameShape o') (ho : o.Rated) :
    o'.Rated := by
  cases o with
  | file r =>
    cases o' with
    | file r' => exact FileResult.SameShape.rated h ho
    | review r' => exact h.elim
  | review r =>
    cases o' with
    | file r' => exact h.elim
    | review r' => exact forall_mem_of_forall₂ h.files (fun _ _ => FileResult.SameShape.rated) ho

namespace Report.Page

/-! ## Tags -/

theorem untagged_div : Untagged "</div>".toList := by
  decide

variable {tag : Mark}

theorem untagged_entryFrame (htag : tag ∈ tags) (i : Issue) :
    entryFrame tag i = 0 := by
  have hhead : ∀ level, Untagged (entryHead level (blankIssue true true)) := by
    intro level
    unfold entryHead badge
    -- As a list of characters a literal is cheap to look through, as a string it is not.
    repeat rw [String.toList_ofList]
    cases level <;> decide +kernel
  have hblock : ∀ missing, Untagged (block "code-block" (blank missing))
      ∧ Untagged (block "suggestion" (blank missing)) := by
    unfold block
    repeat rw [String.toList_ofList]
    decide +kernel
  have hcode := (hblock i.code.isEmpty).1 tag htag
  have hadvice := (hblock i.suggestion.isEmpty).2 tag htag
  unfold entryFrame
  rw [entry_pieces, occurrences_entryHead, hhead _ tag htag]
  simp only [blankIssue, hcode, hadvice, untagged_div tag htag, tag.occurrences_nil]

theorem untagged_tables :
    Untagged (badge [] []) ∧ Untagged (tableHead [] []) ∧ Untagged (row [] 0) ∧ Untagged tableEnd
      ∧ Untagged ("<code>".toList ++ "</code>".toList) := by
  unfold badge tableHead row tableEnd
  repeat rw [String.toList_ofList]
  decide +kernel

theorem untagged_headings :
    Untagged (group [] []) ∧ Untagged "<h2>Issues</h2>".toList
      ∧ Untagged "<h2>Detailed Issues</h2>".toList
      ∧ Untagged "<p><em>File was skipped</em></p>".toList := by
  unfold group
  repeat rw [String.toList_ofList]
  decide +kernel

theorem untagged_numbers :
    Untagged (issueCount 0) ∧ Untagged (fileMetrics (some {})) ∧ Untagged (reviewMetrics (some {}))
      ∧ Untagged (scoreBar { timestamp := [] }) := by
  unfold issueCount fileMetrics reviewMetrics scoreBar card
  repeat rw [String.toList_ofList]
  decide +kernel

theorem untagged_scoreLines :
    ∀ tag ∈ tags, ((scoreLines [] { timestamp := [] }).map tag.occurrences).sum = 0 := by
  unfold scoreLines card
  repeat rw [String.toList_ofList]
  decide +kernel

theorem not_mem_ofList {l : Text} (h : '<' ∉ l) : '<' ∉ (String.ofList l).toList := by
  rwa [String.toList_ofList]

/-- The style sheet has no angle bracket. -/
theorem not_mem_styleRules : ∀ r ∈ styleRules,
    '<' ∉ r.selector.toList ∧ ∀ d ∈ r.declarations, '<' ∉ d.toList := by
  unfold styleRules
  simp -implicitDefEqProofs only [List.forall_mem_cons, List.not_mem_nil, false_implies,
    implies_true, and_true]
  repeat' apply And.intro
  all_goals exact not_mem_ofList (by decide)

theorem not_mem_join {sep : Text} {ts : List Text} (hsep : '<' ∉ sep) (h : ∀ t ∈ ts, '<' ∉ t) :
    '<' ∉ Text.join sep ts := by
  match ts with
  | [] => exact List.not_mem_nil
  | [t] => exact h t List.mem_cons_self
  | t :: u :: ts =>
    have hrest : ∀ v ∈ u :: ts, '<' ∉ v := fun v hv => h v (List.mem_cons_of_mem _ hv)
    change '<' ∉ t ++ (u :: ts).flatMap (sep ++ ·)
    simp only [List.mem_append, List.mem_flatMap, not_or, not_exists, not_and]
    exact ⟨h t List.mem_cons_self, fun v hv => ⟨hsep, hrest v hv⟩⟩

theorem not_mem_lines {r : StyleRule} (hr : r ∈ styleRules) : ∀ l ∈ r.lines, '<' ∉ l := by
  obtain ⟨hselector, hdeclarations⟩ := not_mem_styleRules r hr
  have hdeclared : ∀ t ∈ r.declarations.map fun d => d.toList ++ [';'], '<' ∉ t := by
    intro t ht
    obtain ⟨d, hd, rfl⟩ := List.mem_map.mp ht
    simp [hdeclarations d hd]
  have hjoined : '<' ∉ Text.join [' '] (r.declarations.map fun d => d.toList ++ [';']) :=
    not_mem_join (by decide) hdeclared
  intro l hl
  unfold StyleRule.lines at hl
  split at hl
  · rw [List.mem_singleton.mp hl]
    simp [hselector, hjoined]
  · simp only [List.mem_append, List.mem_singleton, List.mem_map] at hl
    rcases hl with (rfl | ⟨t, ht, rfl⟩) | rfl
    · simp [hselector]
    · have := hdeclared t (List.mem_map.mpr ht)
      simp [this]
    · decide

theorem untagged_styles : Untagged styles := by
  intro tag htag
  have hrules : ((styleRules.flatMap StyleRule.lines).map tag.occurrences).sum = 0 := by
    apply List.sum_eq_zero
    intro n hn
    obtain ⟨l, hl, rfl⟩ := List.mem_map.mp hn
    obtain ⟨r, hr, hl⟩ := List.mem_flatMap.mp hl
    exact tag.occurrences_of_not_mem (not_mem_lines hr l hl)
  unfold styles Text.sections
  rw [tag.occurrences_unlines]
  simp -implicitDefEqProofs only [List.flatten_cons, List.flatten_nil, List.map_append,
    List.sum_append, hrules, List.map_cons, List.map_nil, List.sum_cons, List.sum_nil]
  clear hrules
  revert tag
  decide +kernel

theorem opening_closing (htag : tag ∈ tags) :
    ((opening [] []).map tag.occurrences).sum + tag.occurrences (closing []) = 1 := by
  have hstyles : tag.occurrences ("    ".toList ++ styles) = 0 := by
    rw [tag.occurrences_framing_append (by apply framing_ofList; decide), untagged_styles tag htag,
      tag.occurrences_of_not_mem (by decide)]
  unfold opening closing
  rw [tag.occurrences_unlines]
  simp -implicitDefEqProofs only [List.map_cons, List.map_nil, List.sum_cons, List.sum_nil, hstyles]
  clear hstyles
  revert tag
  repeat rw [String.toList_ofList]
  decide +kernel

theorem fileOpening_tag (htag : tag ∈ tags) :
    ((opening "Code Review - " "📁 Code Review: ").map tag.occurrences).sum
      + tag.occurrences (closing []) = 1 := by
  rw [occurrences_opening, tag.occurrences_of_not_mem (not_mem_ofList (by decide)),
    tag.occurrences_of_not_mem (not_mem_ofList (by decide))]
  simp -implicitDefEqProofs only [Nat.add_zero]
  exact opening_closing htag

theorem fileFrame_tag (htag : tag ∈ tags) (metrics : Option Metrics) (empty : Bool) :
    fileFrame tag (metrics.map fun _ => {}) empty = 1 := by
  obtain ⟨hcount, hmetrics, _, _⟩ := untagged_numbers
  obtain ⟨_, hheading, _, _⟩ := untagged_headings
  have hnumbers : tag.occurrences (fileMetrics (metrics.map fun _ => {})) = 0 := by
    cases metrics with
    | none => rfl
    | some n => exact hmetrics tag htag
  have hempty : tag.occurrences (if empty then [] else "<h2>Issues</h2>".toList) = 0 := by
    cases empty with
    | true => rfl
    | false => exact hheading tag htag
  unfold fileFrame
  rw [hcount tag htag, hnumbers, untagged_div tag htag, hempty]
  simp -implicitDefEqProofs only [Nat.add_zero]
  exact fileOpening_tag htag

theorem reviewFrame_tag (htag : tag ∈ tags) (metrics : Option Metrics) :
    reviewFrame tag (metrics.map fun _ => {}) = 1 := by
  obtain ⟨_, _, hmetrics, hbar⟩ := untagged_numbers
  have hframe := opening_closing htag
  have htitles : tag.occurrences "Paila Code Review Report".toList = 0
      ∧ tag.occurrences "📋 Paila Code Review Report".toList = 0
      ∧ tag.occurrences " - AI-Powered Code Review".toList = 0 :=
    ⟨tag.occurrences_of_not_mem (not_mem_ofList (by decide)),
      tag.occurrences_of_not_mem (not_mem_ofList (by decide)),
      tag.occurrences_of_not_mem (not_mem_ofList (by decide))⟩
  have hnumbers : tag.occurrences (reviewMetrics (metrics.map fun _ => {})) = 0 := by
    cases metrics with
    | none => rfl
    | some n => exact hmetrics tag htag
  have hopening : tag.occurrences (reviewOpening [] { timestamp := [] })
      = ((opening [] []).map tag.occurrences).sum := by
    unfold reviewOpening
    rw [tag.occurrences_unlines, List.map_append, List.sum_append, untagged_scoreLines tag htag,
      occurrences_opening, htitles.1, htitles.2.1]
    simp -implicitDefEqProofs only [Nat.add_zero]
  unfold reviewFrame
  rw [hopening, hnumbers, hbar tag htag, occurrences_closing, htitles.2.2]
  simp -implicitDefEqProofs only [Nat.add_zero]
  exact hframe

theorem untagged_severities (r : ReviewResult) : Untagged (severities r) := by
  intro tag htag
  obtain ⟨hbadge, hhead, hrow, hend, _⟩ := untagged_tables
  have hcell (s : Severity) :
      tag.occurrences (badge (color s) (s.toText.map Char.toUpper)) = 0 := by
    have hwords : '<' ∉ color s ∧ '<' ∉ s.toText.map Char.toUpper := by
      cases s <;> decide
    rw [occurrences_badge, hbadge tag htag, tag.occurrences_of_not_mem hwords.1,
      tag.occurrences_of_not_mem hwords.2]
  unfold severities
  split
  · rfl
  · rw [occurrences_table, hhead tag htag, hend tag htag,
      tag.occurrences_of_not_mem (not_mem_ofList (by decide)),
      tag.occurrences_of_not_mem (not_mem_ofList (by decide)), hrow tag htag, List.map_map]
    simp [Function.comp_def, hcell]

/-! ## Frames of the same shape -/

theorem sum_entryFrame_of_sameShape (m : Mark) {issues issues' : List Issue}
    (h : List.Forall₂ Issue.SameShape issues issues') :
    (issues.map (entryFrame m)).sum = (issues'.map (entryFrame m)).sum := by
  induction h with
  | nil => rfl
  | @cons i j _ _ hij _ ih =>
    have hfirst : entryFrame m i = entryFrame m j := by
      unfold entryFrame
      rw [hij.severity, hij.code, hij.suggestion]
    rw [List.map_cons, List.sum_cons, hfirst, ih, List.map_cons, List.sum_cons]

theorem map_blank_of_isSome {metrics metrics' : Option Metrics}
    (h : metrics.isSome = metrics'.isSome) :
    (metrics.map fun _ => ({} : Metrics)) = metrics'.map fun _ => {} := by
  cases metrics <;> cases metrics' <;> simp_all

theorem isEmpty_of_forall₂ {α β : Type} {R : α → β → Prop} {as : List α} {bs : List β}
    (h : List.Forall₂ R as bs) : as.isEmpty = bs.isEmpty := by
  cases h <;> rfl

theorem ownFileFrame_of_sameShape (m : Mark) {r r' : FileResult} (h : r.SameShape r') :
    ownFileFrame m r = ownFileFrame m r' := by
  unfold ownFileFrame
  rw [h.skipped, map_blank_of_isSome h.metrics, isEmpty_of_forall₂ h.issues,
    sum_entryFrame_of_sameShape m h.issues]

theorem issues_of_sameShape {files files' : List FileResult}
    (h : List.Forall₂ FileResult.SameShape files files') :
    List.Forall₂ Issue.SameShape (files.flatMap (·.issues)) (files'.flatMap (·.issues)) := by
  induction h with
  | nil => exact .nil
  | cons hfile _ ih => exact List.rel_append hfile.issues ih

theorem ownReviewFrame_of_sameShape (m : Mark) {r r' : ReviewResult} (h : r.SameShape r') :
    ownReviewFrame m r = ownReviewFrame m r' := by
  have hissues : List.Forall₂ Issue.SameShape r.issues r'.issues := issues_of_sameShape h.files
  have htypes : r.byType.isEmpty = r'.byType.isEmpty := by
    rw [Bool.eq_iff_iff, List.isEmpty_iff_length_eq_zero, List.isEmpty_iff_length_eq_zero, h.byType]
  have hseverities : severities r = severities r' := by
    unfold severities levels ReviewResult.countOf
    rw [h.bySeverity]
  unfold ownReviewFrame
  rw [map_blank_of_isSome h.metrics, hseverities, htypes, h.byType, isEmpty_of_forall₂ hissues,
    h.issueFiles, sum_entryFrame_of_sameShape m hissues]

/-! ## Frames and tags -/

theorem sum_entryFrame_tag (htag : tag ∈ tags) (issues : List Issue) :
    (issues.map (entryFrame tag)).sum = 0 := by
  apply List.sum_eq_zero
  intro n hn
  obtain ⟨i, _, rfl⟩ := List.mem_map.mp hn
  exact untagged_entryFrame htag i

theorem ownFileFrame_tag (htag : tag ∈ tags) (r : FileResult) :
    ownFileFrame tag r = 1 := by
  unfold ownFileFrame
  split
  · obtain ⟨_, _, _, hskipped⟩ := untagged_headings
    rw [skippedPage_pieces, occurrences_fileOpening, hskipped tag htag, tag.occurrences_nil]
    simp -implicitDefEqProofs only [Nat.mul_zero, Nat.add_zero]
    exact fileOpening_tag htag
  · rw [fileFrame_tag htag, sum_entryFrame_tag htag]

theorem ownReviewFrame_tag (htag : tag ∈ tags) (r : ReviewResult) :
    ownReviewFrame tag r = 1 := by
  obtain ⟨_, hhead, hrow, hend, hcell⟩ := untagged_tables
  obtain ⟨hgroup, _, hdetailed, _⟩ := untagged_headings
  have htable : tag.occurrences (table "Issues by Type" "Type" []) = 0 := by
    rw [occurrences_table, hhead tag htag, hend tag htag,
      tag.occurrences_of_not_mem (not_mem_ofList (by decide)),
      tag.occurrences_of_not_mem (not_mem_ofList (by decide))]
    rfl
  unfold ownReviewFrame
  rw [reviewFrame_tag htag, untagged_severities r tag htag, htable, hrow tag htag, hcell tag htag,
    hdetailed tag htag, hgroup tag htag, sum_entryFrame_tag htag]
  simp

/-! ## Whole pages -/

/-- What a page counts without its texts. -/
def frame (m : Mark) : Outcome → Nat
  | .file r => ownFileFrame m r
  | .review r => ownReviewFrame m r

theorem frame_of_sameShape (m : Mark) {o o' : Outcome} (h : o.SameShape o') :
    frame m o = frame m o' := by
  cases o with
  | file r =>
    cases o' with
    | file r' => exact ownFileFrame_of_sameShape m h
    | review r' => exact h.elim
  | review r =>
    cases o' with
    | file r' => exact h.elim
    | review r' => exact ownReviewFrame_of_sameShape m h

theorem frame_tag (htag : tag ∈ tags) (o : Outcome) : frame tag o = 1 := by
  cases o with
  | file r => exact ownFileFrame_tag htag r
  | review r => exact ownReviewFrame_tag htag r

theorem exists_format {now : Text} (hnow : '<' ∉ now) {o : Outcome} (ho : o.Rated) :
    ∃ page, format now o = .ok page
      ∧ ∀ m : Mark, m.occurrences page = frame m o + (o.shown.map m.occurrences).sum := by
  cases o with
  | file r => exact ⟨ownFile r, file_of_rated ho, fun m => occurrences_ownFile m r⟩
  | review r => exact ⟨_, review_of_rated ho now, fun m => occurrences_ownReview m hnow r⟩

theorem map_occurrences_angle (ts : List Text) :
    (ts.map Mark.angle.occurrences).sum = (ts.map (·.count '<')).sum := by
  rw [funext Mark.occurrences_angle]

/-- A page is made at any moment for any result whose issues have levels. It has each tag once, and
once more for each time that a text it shows has it. For results of the same shape, the pages have
equally many angle brackets just if the texts they show have. -/
theorem format_occurrences {now : Text} (hnow : '<' ∉ now) {o : Outcome} (ho : o.Rated) :
    ∃ page, format now o = .ok page
      ∧ (∀ tag ∈ tags, tag.occurrences page = 1 + (o.shown.map tag.occurrences).sum)
      ∧ ∀ o', o.SameShape o' → ∃ page', format now o' = .ok page'
        ∧ (page.count '<' = page'.count '<'
          ↔ (o.shown.map (·.count '<')).sum = (o'.shown.map (·.count '<')).sum) := by
  obtain ⟨page, hpage, hcount⟩ := exists_format hnow ho
  refine ⟨page, hpage, ?_, ?_⟩
  · intro tag htag
    rw [hcount, frame_tag htag]
  · intro o' hshape
    obtain ⟨page', hpage', hcount'⟩ := exists_format hnow (hshape.rated ho)
    have hhere := hcount Mark.angle
    have hthere := hcount' Mark.angle
    rw [Mark.occurrences_angle, map_occurrences_angle] at hhere hthere
    -- Both pages have the brackets of the same frame, so the texts make the difference.
    rw [← frame_of_sameShape Mark.angle hshape] at hthere
    refine ⟨page', hpage', ?_⟩
    omega

/-- A review of two files in which a type, the name of a file and a message may have markup. -/
def markedReview (type file message : Text) : Outcome :=
  let issue (file message : Text) : Issue :=
    { type := type, severity := .level .low, file := file, line := 1, message := message }
  .review
    { files := [{ file := "a.py", issues := [issue "a.py" message, issue "a.py" "Long line"] },
        { file := file, issues := [issue file "Long line"] }]
      totalIssues := 3, bySeverity := [("low".toList, 3)], byType := [(type, 3)]
      timestamp := [] }

theorem markedReview_rated (type file message : Text) : (markedReview type file message).Rated := by
  simp [markedReview, Outcome.Rated, FileResult.Rated, Issue.Rated]

theorem format_occurrences_marked :
    '<' ∉ "2024-01-02T03:04:05".toList
      ∧ (markedReview "<body>" "<html>.py" "<b>").Rated
      ∧ ∃ page, format "2024-01-02T03:04:05" (markedReview "<body>" "<html>.py" "<b>") = .ok page
        ∧ tags.map (·.occurrences page) = [3, 1, 2, 1]
        ∧ ∃ page', format "2024-01-02T03:04:05" (markedReview "body" "<.py" "b<<") = .ok page'
          ∧ page.count '<' = page'.count '<' := by
  have hrated := markedReview_rated "<body>" "<html>.py" "<b>"
  have hshape : (markedReview "<body>" "<html>.py" "<b>").SameShape
      (markedReview "body" "<.py" "b<<") :=
    ⟨.cons ⟨.cons ⟨rfl, rfl, rfl⟩ (.cons ⟨rfl, rfl, rfl⟩ .nil), rfl, rfl⟩
      (.cons ⟨.cons ⟨rfl, rfl, rfl⟩ .nil, rfl, rfl⟩ .nil), by decide, rfl, rfl, rfl⟩
  have hnow : '<' ∉ "2024-01-02T03:04:05".toList := by decide
  obtain ⟨page, hpage, htags, hangles⟩ := format_occurrences hnow hrated
  obtain ⟨page', hpage', hiff⟩ := hangles _ hshape
  refine ⟨hnow, hrated, page, hpage, ?_, page', hpage', hiff.mpr (by decide)⟩
  rw [List.map_congr_left htags]
  decide

/-- A message is enough for a second opening tag, and for another bracket than the same page with a
harmless message has. -/
theorem format_repeats_tag :
    ∃ tag ∈ tags, tag.text = "<html".toList
      ∧ ∃ page page', format [] (markedReview "t" "b.py" "<html") = .ok page
        ∧ format [] (markedReview "t" "b.py" "html") = .ok page'
        ∧ tag.occurrences page = 2 ∧ page.count '<' = page'.count '<' + 1 := by
  have hshape : (markedReview "t" "b.py" "<html").SameShape (markedReview "t" "b.py" "html") :=
    ⟨.cons ⟨.cons ⟨rfl, rfl, rfl⟩ (.cons ⟨rfl, rfl, rfl⟩ .nil), rfl, rfl⟩
      (.cons ⟨.cons ⟨rfl, rfl, rfl⟩ .nil, rfl, rfl⟩ .nil), rfl, rfl, rfl, rfl⟩
  have hnow : '<' ∉ ([] : Text) := List.not_mem_nil
  obtain ⟨page, hpage, hcount⟩ := exists_format hnow (markedReview_rated "t" "b.py" "<html")
  obtain ⟨page', hpage', hcount'⟩ := exists_format hnow (markedReview_rated "t" "b.py" "html")
  have htag : tags.head (by decide) ∈ tags := List.head_mem _
  refine ⟨_, htag, rfl, page, page', hpage, hpage', ?_, ?_⟩
  · rw [hcount, frame_tag htag]
    decide
  · rw [← Mark.occurrences_angle, ← Mark.occurrences_angle, hcount, hcount',
      frame_of_sameShape Mark.angle hshape, Nat.add_assoc]
    congr 1

end Report.Page

end CodeReview
