import CodeReview.Assist.Adviser
import CodeReview.Forge.Comment
import CodeReview.Proofs.Commands
import CodeReview.Proofs.Details

/-!
# What is listed first

A report on a terminal, the comment about a review and the question for a summary each list the
first few issues of the same ranking, from the worst on. The report and the comment say how many
issues they leave out. A report also lists the types of issues from the most frequent on, but only
if there are at most ten of them: with more types it leaves them out altogether.
-/

namespace CodeReview

/-! ## Rankings -/

/-- A list in the order of a key. -/
structure RankedBy {α : Type} (key : α → Int) (given ranked : List α) : Prop where
  /-- Nothing is lost and nothing is repeated. -/
  perm : ranked.Perm given
  /-- Smaller keys come first. -/
  sorted : ranked.Pairwise fun a b => key a ≤ key b
  /-- What has the same key stays in order. -/
  stable : ∀ k, ranked.filter (key · = k) = given.filter (key · = k)

theorem rankedBy_mergeSort {α : Type} {key : α → Int} {le : α → α → Bool}
    (hle : ∀ a b, le a b = decide (key a ≤ key b)) (l : List α) :
    RankedBy key l (l.mergeSort le) := by
  have htrans : ∀ a b c, le a b = true → le b c = true → le a c = true := by
    intro a b c hab hbc
    simp only [hle, decide_eq_true_eq] at hab hbc ⊢
    omega
  have htotal : ∀ a b, (le a b || le b a) = true := by
    intro a b
    simp only [hle, Bool.or_eq_true, decide_eq_true_eq]
    omega
  have hperm : (l.mergeSort le).Perm l := List.mergeSort_perm l le
  refine ⟨hperm, ?_, fun k => ?_⟩
  · refine (List.pairwise_mergeSort htrans htotal l).imp fun {a b} hab => ?_
    rwa [hle, decide_eq_true_eq] at hab
  · -- What has the key is in order already, so the sort keeps it as a sublist.
    have hties : (l.filter (key · = k)).Pairwise fun a b => le a b = true := by
      refine List.pairwise_of_forall_mem_list fun a ha b hb => ?_
      rw [List.mem_filter, decide_eq_true_eq] at ha hb
      rw [hle, decide_eq_true_eq, ha.2, hb.2]
    have hkept := List.sublist_mergeSort htrans htotal hties List.filter_sublist
    replace hkept := hkept.filter (key · = k)
    rw [List.filter_filter] at hkept
    simp only [Bool.and_self] at hkept
    exact (hkept.eq_of_length (hperm.filter _).length_eq.symm).symm

theorem RankedBy.le_of_mem_take {α : Type} {key : α → Int} {given ranked : List α}
    (h : RankedBy key given ranked) {n : Nat} {a b : α} (ha : a ∈ ranked.take n)
    (hb : b ∈ ranked.drop n) : key a ≤ key b := by
  have hsorted := h.sorted
  rw [← List.take_append_drop n ranked, List.pairwise_append] at hsorted
  exact hsorted.2.2 a ha b hb

theorem rankedBy_bySeverity (issues : List Issue) :
    RankedBy (fun i : Issue => i.severity.place) issues (bySeverity issues) :=
  rankedBy_mergeSort (fun a b => by simp) issues

theorem Report.rankedBy_byCount (counts : Entries Int) :
    RankedBy (fun e : Text × Int => -e.2) counts (byCount counts) :=
  rankedBy_mergeSort (fun a b => by simp) counts

/-! ## The worst issues -/

/-- The levels from the worst on. -/
def Rating.scale : List Rating :=
  [.level .critical, .level .high, .level .medium, .level .low, .level .info]

theorem Rating.place_eq_idxOf (r : Rating) : r.place = scale.idxOf r := by
  cases r with
  | level s => cases s <;> rfl
  | other t => rfl

/-- A level in capital letters, a message and a place. -/
def Issue.spelled (i : Issue) (before between opening closing : String) : Text :=
  before ++ i.severity.toText.map Char.toUpper ++ between ++ i.message ++ opening ++ i.file ++ ":"
    ++ (toString i.line).toList ++ closing

namespace Report.Terminal

variable (t : Terminal)

/-- A text in the color of a number. -/
def painted (number : String) (text : Text) : Text :=
  if t.colors then "\x1b[" ++ number ++ "m" ++ text ++ "\x1b[0m" else text

/-- The icon of a level and the number of its color. -/
def look : Rating → Text × String
  | .level .critical => ("🚨", "91")
  | .level .high => ("❌", "91")
  | .level .medium => ("⚠️ ", "93")
  | .level .low => ("💡", "96")
  | .level .info => ("ℹ️ ", "2")
  | .other _ => ("•", "97")

/-- The two lines about an issue: the start of its message, and its place. -/
def pair (i : Issue) : List Text :=
  let icon : Text :=
    if t.icons then (look i.severity).1 else "[" ++ i.severity.toText.map Char.toUpper ++ "]"
  ["  " ++ icon ++ " " ++ t.painted (look i.severity).2 (i.message.take 50),
    t.painted "2" ("     └─ " ++ i.file ++ ":" ++ (toString i.line).toList)]

/-- A section with its title. -/
def titled (title : String) (rows : List Text) : List Text :=
  [] :: t.painted "1" title :: t.painted "2" (List.replicate 40 '-') :: rows

/-- The lines about some issues and how many more there are. -/
def topLines (issues : List Issue) (more : Nat) : List Text :=
  if issues = [] then []
  else t.titled "🔍 TOP ISSUES" (issues.flatMap t.pair ++
    if more = 0 then [] else ["\n  ... and " ++ (toString more).toList ++ " more issues"])

/-- A report on a terminal has these lines about types and issues between its other parts. -/
def Has (r : ReviewResult) (report : Text) (types top : List Text) : Prop :=
  ∃ severities, t.severities r = .ok severities ∧ report = ['\n'].intercalate (List.flatten
    [t.banner, t.summary r, severities, types, t.files r, top, t.closing])

end Report.Terminal

namespace Forge

/-- The lines of a comment about some issues and how many more there are. -/
def topLines (issues : List Issue) (more : Nat) : List Text :=
  if issues = [] then []
  else List.flatten
    [["### Top Issues", []], issues.map (·.spelled "- **[" "]** " " (`" "`)"),
      if more = 0 then [] else ["- ... and " ++ (toString more).toList ++ " more"], [[]]]

/-- A comment lists these issues, and says how many more there are. -/
def Tops (r : ReviewResult) (comment : Text) (issues : List Issue) (more : Nat) : Prop :=
  comment = ['\n'].intercalate (List.flatten
    [heading r, severityTable r, topLines issues more, closing])

end Forge

/-- A question for a summary lists these issues. -/
def Assist.Prompt.Tops (r : ReviewResult) (prompt : Text) (issues : List Issue) : Prop :=
  prompt = ['\n'].intercalate (List.flatten [numbers r, ["Top Issues:", if issues = [] then "None"
    else ['\n'].intercalate (issues.map (·.spelled "- [" "] " " (" ")"))], wishes])

theorem length_take_bySeverity (issues : List Issue) (n : Nat) :
    ((bySeverity issues).take n).length + (issues.length - n) = issues.length := by
  rw [List.length_take, (rankedBy_bySeverity issues).perm.length_eq]
  omega

theorem take_bySeverity_eq_nil {issues : List Issue} {n : Nat} :
    (bySeverity issues).take (n + 1) = [] ↔ issues.isEmpty = true := by
  rw [← (rankedBy_bySeverity issues).perm.isEmpty_eq, List.isEmpty_iff]
  cases bySeverity issues <;> simp

theorem rated_of_mem_take {issues : List Issue} (h : ∀ i ∈ issues, i.Rated) {n : Nat} :
    ∀ i ∈ (bySeverity issues).take n, i.Rated := fun i hi =>
  h i ((rankedBy_bySeverity issues).perm.subset (List.mem_of_mem_take hi))

theorem severities_of_rated {issues : List Issue} (h : ∀ i ∈ issues, i.Rated) :
    ∃ levels, issues.mapM (fun i => i.severity.severity) = .ok levels := by
  refine Steps.exists_mapM fun i hi => ?_
  obtain ⟨s, hs⟩ := h i hi
  rw [hs]
  exact ⟨s, rfl⟩

theorem Issue.Rated.upper {i : Issue} (h : i.Rated) :
    Text.upper i.severity.toText = i.severity.toText.map Char.toUpper := by
  obtain ⟨s, hs⟩ := h
  rw [hs]
  cases s <;> decide

namespace Report.Terminal

variable (t : Terminal) {r : ReviewResult}

theorem brief_of_rated {i : Issue} (h : i.Rated) : t.brief i = .ok (t.pair i) := by
  obtain ⟨s, hs⟩ := h
  have hicon : t.icon i.severity = .ok (if t.icons then (look i.severity).1
      else "[" ++ i.severity.toText.map Char.toUpper ++ "]") := by
    unfold icon
    rw [hs]
    split
    · cases s <;> rfl
    · rfl
  have hpaint (text : Text) :
      t.paint (.ofRating i.severity) text = t.painted (look i.severity).2 text := by
    rw [hs]
    cases s <;> rfl
  unfold brief pair
  rw [hicon, ← hpaint, ← ofInt_eq_toString]
  rfl

theorem titled_eq (title : String) (rows : List Text) :
    t.titled title rows = [] :: t.heading title ++ rows :=
  rfl

theorem has_of_format {report : Text} (h : t.format (.review r) = .ok report) :
    ∃ top, t.top r = .ok top ∧ t.Has r report (t.types r) top := by
  obtain ⟨severities, hseverities, hrest⟩ := Steps.bind_ok (show t.review r = _ from h)
  obtain ⟨top, htop, hreport⟩ := Steps.bind_ok hrest
  refine ⟨top, htop, severities, hseverities, ?_⟩
  rw [← Except.ok.inj hreport, sections_eq_intercalate]

theorem top_of_rated (h : ∀ i ∈ r.issues, i.Rated) :
    t.top r = .ok (t.topLines ((bySeverity r.issues).take 5) (r.issues.length - 5)) := by
  have hbriefs : (topIssues r).mapM t.brief = .ok ((topIssues r).map t.pair) :=
    Steps.mapM_ok fun i hi => t.brief_of_rated (rated_of_mem_take h i hi)
  unfold top topLines
  rw [hbriefs]
  simp only [take_bySeverity_eq_nil, ← ofNat_eq_toString]
  split
  · rfl
  · simp only [titled_eq, List.flatMap_def]
    change Except.ok (t.topSection _ _) = _
    simp only [topSection, List.flatten_cons, List.flatten_nil, List.append_nil]
    rfl

theorem exists_format_tops (h : ∀ i ∈ r.issues, i.Rated) :
    ∃ report, t.format (.review r) = .ok report ∧ t.Has r report (t.types r)
      (t.topLines ((bySeverity r.issues).take 5) (r.issues.length - 5)) := by
  obtain ⟨report, hreport⟩ := t.exists_format (o := .review r) h
  obtain ⟨top, htop, hhas⟩ := t.has_of_format hreport
  obtain rfl := Except.ok.inj (htop.symm.trans (t.top_of_rated h))
  exact ⟨report, hreport, hhas⟩

end Report.Terminal

theorem Forge.exists_summary_tops {r : ReviewResult} (h : ∀ i ∈ r.issues, i.Rated) :
    ∃ comment, summary r true = .ok comment
      ∧ Tops r comment ((bySeverity r.issues).take 10) (r.issues.length - 10) := by
  have hranked : ranked r.issues = .ok (bySeverity r.issues) := by
    obtain ⟨levels, hlevels⟩ := severities_of_rated h
    unfold ranked
    rw [hlevels]
    rfl
  have hrows : ∀ i ∈ (bySeverity r.issues).take 10,
      issueRow i = i.spelled "- **[" "]** " " (`" "`)" := by
    intro i hi
    unfold issueRow Issue.spelled
    rw [(rated_of_mem_take h i hi).upper, Report.ofInt_eq_toString]
  have htop : topIssues r
      = .ok (topLines ((bySeverity r.issues).take 10) (r.issues.length - 10)) := by
    unfold topIssues topLines topSection
    rw [hranked, ← List.map_congr_left hrows, ← Report.ofNat_eq_toString]
    simp only [take_bySeverity_eq_nil, ← (rankedBy_bySeverity r.issues).perm.isEmpty_eq,
      ← (rankedBy_bySeverity r.issues).perm.length_eq]
    change ite _ _ _ = _
    split
    · rfl
    · rfl
  refine ⟨_, ?_, rfl⟩
  unfold summary
  rw [htop, ← Report.sections_eq_intercalate]
  rfl

theorem Assist.Prompt.exists_summarize_tops {r : ReviewResult} (h : ∀ i ∈ r.issues, i.Rated) :
    ∃ prompt, summarize r = .ok prompt ∧ Tops r prompt ((bySeverity r.issues).take 5) := by
  obtain ⟨levels, hlevels⟩ := severities_of_rated h
  have hrows : ∀ i ∈ (bySeverity r.issues).take 5, issueLine i = i.spelled "- [" "] " " (" ")" := by
    intro i hi
    unfold issueLine Issue.spelled
    rw [(rated_of_mem_take h i hi).upper, Report.ofInt_eq_toString]
  refine ⟨_, ?_, rfl⟩
  unfold summarize issueLines
  rw [hlevels, ← List.map_congr_left hrows, ← Report.sections_eq_intercalate,
    ← Text.join_eq_intercalate]
  change Except.ok (Text.sections
    [_, [_, listed (((bySeverity r.issues).take 5).map issueLine)], _]) = _
  cases (bySeverity r.issues).take 5 with
  | nil => rfl
  | cons i is => rfl

/-- The report on a terminal lists the first five issues of the ranking from critical to info, the
comment the first ten, and the question for a summary the first five. No issue that is left out is
worse than one that is listed, and what is listed and what is said to be left out make up all
issues. -/
theorem worst_issues_listed (t : Report.Terminal) (a : Assist.Adviser) (r : ReviewResult)
    (h : ∀ f ∈ r.files, f.Rated) :
    ∃ ranked, RankedBy (fun i : Issue => Rating.scale.idxOf i.severity) r.issues ranked
      ∧ (∃ report more, t.format (.review r) = .ok report
        ∧ t.Has r report (t.types r) (t.topLines (ranked.take 5) more)
        ∧ (ranked.take 5).length + more = r.issues.length)
      ∧ (∃ comment more, Forge.summary r true = .ok comment
        ∧ Forge.Tops r comment (ranked.take 10) more
        ∧ (ranked.take 10).length + more = r.issues.length)
      ∧ (∃ prompt, a.summarize r = a.ask prompt Assist.Adviser.answerTokens
        ∧ Assist.Prompt.Tops r prompt (ranked.take 5))
      ∧ ranked.take 5 <+: ranked.take 10
      ∧ ∀ n, ∀ i ∈ ranked.take n, ∀ j ∈ ranked.drop n,
        Rating.scale.idxOf i.severity ≤ Rating.scale.idxOf j.severity := by
  have hissues := ReviewResult.rated_of_mem_issues h
  have hranked : RankedBy (fun i : Issue => Rating.scale.idxOf i.severity) r.issues
      (bySeverity r.issues) := by
    simp only [← Rating.place_eq_idxOf]
    exact rankedBy_bySeverity r.issues
  obtain ⟨report, hreport, hlisted⟩ := t.exists_format_tops hissues
  obtain ⟨comment, hcomment, hcommented⟩ := Forge.exists_summary_tops hissues
  obtain ⟨prompt, hprompt, hasked⟩ := Assist.Prompt.exists_summarize_tops hissues
  refine ⟨bySeverity r.issues, hranked, ⟨report, _, hreport, hlisted, ?_⟩,
    ⟨comment, _, hcomment, hcommented, ?_⟩, ⟨prompt, ?_, hasked⟩, ?_, ?_⟩
  · exact length_take_bySeverity r.issues 5
  · exact length_take_bySeverity r.issues 10
  · unfold Assist.Adviser.summarize
    rw [hprompt]
    rfl
  · exact List.take_prefix_take_left (by omega)
  · intro n i hi j hj
    exact Int.ofNat_le.mp (hranked.le_of_mem_take hi hj)

/-- Twelve issues of one file, every other one critical. -/
def crowded : ReviewResult :=
  { files := [{ file := "a.py", issues := (List.range 12).map fun n =>
      { type := "todo_comment", severity := .level (if n % 2 = 0 then .low else .critical)
        file := "a.py", line := n, message := "Todo" } }]
    timestamp := [] }

theorem rated_crowded : ∀ f ∈ crowded.files, f.Rated := by
  simp [crowded, FileResult.Rated, Issue.Rated]

theorem worst_issues_listed_crowded :
    (∀ f ∈ crowded.files, f.Rated)
      ∧ ∃ ranked, RankedBy (fun i : Issue => Rating.scale.idxOf i.severity) crowded.issues ranked
        ∧ (∃ report, Report.Terminal.format {} (.review crowded) = .ok report
          ∧ Report.Terminal.Has {} crowded report []
            (Report.Terminal.topLines {} (ranked.take 5) 7))
        ∧ ∃ comment, Forge.summary crowded true = .ok comment
          ∧ Forge.Tops crowded comment (ranked.take 10) 2 := by
  have hcount : crowded.issues.length = 12 := rfl
  obtain ⟨ranked, hranked, ⟨report, more, hreport, hlisted, hall⟩,
      ⟨comment, rest, hcomment, hcommented, hall'⟩, -⟩ :=
    worst_issues_listed {} ⟨[], .null, .null⟩ crowded rated_crowded
  rw [List.length_take, hranked.perm.length_eq, hcount] at hall hall'
  obtain rfl : more = 7 := by omega
  obtain rfl : rest = 2 := by omega
  exact ⟨rated_crowded, ranked, hranked, ⟨report, hreport, hlisted⟩, comment, hcomment, hcommented⟩

/-! ## The most frequent types -/

theorem length_intercalate_lt {ls before after : List Text} (hls : ls ≠ []) (hbefore : before ≠ [])
    (hafter : after ≠ []) :
    (['\n'].intercalate (before ++ after)).length
      < (['\n'].intercalate (before ++ (ls ++ after))).length := by
  simp only [← Text.join_eq_intercalate]
  rw [Text.join_append _ hbefore hafter, Text.join_append _ hbefore (by simp [hls]),
    Text.join_append _ hls hafter]
  simp only [List.length_append, List.length_singleton]
  omega

namespace Report.Terminal

variable (t : Terminal) {r : ReviewResult}

/-- The lines about some types with their counts. -/
def typeLines (counts : List (Text × Int)) : List Text :=
  t.titled "📂 ISSUES BY TYPE" (counts.map fun e => "  • " ++ e.1 ++ ": " ++ (toString e.2).toList)

/-- A report has these lines about types. -/
def HasTypes (r : ReviewResult) (report : Text) (types : List Text) : Prop :=
  ∃ top, t.top r = .ok top ∧ t.Has r report types top

theorem types_of_many (h : 10 < r.byType.length) : t.types r = [] := by
  unfold types
  rw [decide_eq_true h, Bool.or_true, if_pos rfl]

theorem types_of_few (hne : r.byType ≠ []) (h : r.byType.length ≤ 10) :
    t.types r = t.typeLines ((byCount r.byType).take 10) := by
  unfold types
  rw [if_neg (by simp [hne, h])]
  unfold typeSection typeLines
  simp only [ofInt_eq_toString]
  rfl

/-- A report that says nothing about types has no lines about them. -/
theorem eq_nil_of_hasTypes {report : Text} (h : t.format (.review r) = .ok report)
    (hmany : 10 < r.byType.length) {ls : List Text} (hls : t.HasTypes r report ls) : ls = [] := by
  obtain ⟨top, htop, severities, hseverities, hreport⟩ := t.has_of_format h
  obtain ⟨top', htop', severities', hseverities', hreport'⟩ := hls
  obtain rfl := Except.ok.inj (htop.symm.trans htop')
  obtain rfl := Except.ok.inj (hseverities.symm.trans hseverities')
  by_contra hne
  have hlonger : (['\n'].intercalate (t.banner ++ t.summary r ++ severities
        ++ (t.files r ++ top ++ t.closing))).length
      < (['\n'].intercalate (t.banner ++ t.summary r ++ severities
        ++ (ls ++ (t.files r ++ top ++ t.closing)))).length :=
    length_intercalate_lt hne (by simp [banner]) (by simp [closing])
  rw [t.types_of_many hmany] at hreport
  simp only [List.flatten_cons, List.flatten_nil, List.nil_append, List.append_nil,
    ← List.append_assoc] at hreport hreport' hlonger
  rw [← hreport, ← hreport'] at hlonger
  exact Nat.lt_irrefl _ hlonger

/-- If there are types, the report lists the ten most frequent ones, in order and with their counts,
just if there are at most ten. With more types the report is as if there were none. -/
theorem types_listed_iff (hne : r.byType ≠ []) :
    ∃ ranked, RankedBy (fun e : Text × Int => -e.2) r.byType ranked
      ∧ ((∀ f ∈ r.files, f.Rated) → ∃ report, t.format (.review r) = .ok report)
      ∧ (∀ report, t.format (.review r) = .ok report
        → (t.HasTypes r report (t.typeLines (ranked.take (min 10 r.byType.length)))
          ↔ r.byType.length ≤ 10))
      ∧ (10 < r.byType.length
        → t.format (.review r) = t.format (.review { r with byType := [] })) := by
  have hranked := rankedBy_byCount r.byType
  refine ⟨byCount r.byType, hranked, fun h => t.exists_format (ReviewResult.rated_of_mem_issues h),
    fun report hreport => ⟨fun hlisted => ?_, fun hfew => ?_⟩, fun hmany => ?_⟩
  · by_contra hmany
    exact nomatch t.eq_nil_of_hasTypes hreport (by omega) hlisted
  · rw [← hranked.perm.length_eq, ← List.take_eq_take_min, ← t.types_of_few hne hfew]
    exact t.has_of_format hreport
  · change t.review r = t.review { r with byType := [] }
    unfold review
    rw [t.types_of_many hmany]
    rfl

/-- A review with as many types as there are names, each more frequent than the one before it. -/
def withTypes (names : String) : ReviewResult :=
  { byType := names.toList.zipIdx.map fun c => ([c.1], c.2 + 1), timestamp := [] }

theorem types_listed_iff_ten :
    (withTypes "abcdefghij").byType ≠ []
      ∧ ∃ ranked, RankedBy (fun e : Text × Int => -e.2) (withTypes "abcdefghij").byType ranked
        ∧ ∃ report, format {} (.review (withTypes "abcdefghij")) = .ok report
          ∧ HasTypes {} (withTypes "abcdefghij") report (typeLines {} (ranked.take 10)) := by
  have hne : (withTypes "abcdefghij").byType ≠ [] := by decide
  have hfew : (withTypes "abcdefghij").byType.length = 10 := by decide
  obtain ⟨ranked, hranked, hexists, hiff, -⟩ := types_listed_iff {} hne
  obtain ⟨report, hreport⟩ := hexists (List.forall_mem_nil _)
  have hlisted := (hiff report hreport).mpr (by rw [hfew])
  rw [hfew] at hlisted
  exact ⟨hne, ranked, hranked, report, hreport, hlisted⟩

/-- Eleven types are not listed at all, not even the ten most frequent ones. -/
theorem types_hidden :
    (withTypes "abcdefghijk").byType ≠ []
      ∧ (∀ ranked, RankedBy (fun e : Text × Int => -e.2) (withTypes "abcdefghijk").byType ranked
        → ∀ report, format {} (.review (withTypes "abcdefghijk")) = .ok report
          → ¬ HasTypes {} (withTypes "abcdefghijk") report (typeLines {} (ranked.take 10)))
      ∧ format {} (.review (withTypes "abcdefghijk"))
        = format {} (.review { timestamp := [] }) := by
  have hmany : 10 < (withTypes "abcdefghijk").byType.length := by decide
  refine ⟨by decide, fun ranked _ report hreport hlisted => ?_, ?_⟩
  · exact nomatch eq_nil_of_hasTypes {} hreport hmany hlisted
  · change review {} (withTypes "abcdefghijk") = review {} { timestamp := [] }
    unfold review
    rw [types_of_many {} hmany]
    rfl

end Report.Terminal

end CodeReview
