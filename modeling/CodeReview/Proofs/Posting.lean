import CodeReview.Proofs.Conversations
import CodeReview.Proofs.Gates

/-!
# Reviews that are posted

A review is told to a forge request by request. A failure of one of the first two requests ends
this, one of a comment on an issue is only told in the place of its answer. So the comments stay in
step with the issues, whichever of them are accepted.

Where the commits are not known no issue is commented. But they are looked for without asking what
is there: a null in the place of the references is a failure, after the comment about the whole has
been posted.
-/

namespace CodeReview.Forge

/-! ## What goes over the line -/

/-- The comment on an issue. -/
def remarkOf (i : Issue) : Text :=
  ['\n'].intercalate (List.flatten
    [["**[" ++ i.severity.toText.map Char.toUpper ++ "]** " ++ i.message, []],
      if i.code = [] then [] else ["```python", i.code, "```", []],
      if i.suggestion = [] then [] else ["💡 **Suggestion:** " ++ i.suggestion],
      if i.rule = [] then [] else ["📋 Rule: `" ++ i.rule ++ "`"]])

/-- The addresses that the requests of a discussion go to. -/
structure Addresses where
  summaries : Text
  info : Text
  remarks : Text

/-- They are what the ends of addresses are read as, behind the base of an account. -/
structure Addresses.Follow (urls : Addresses) (a : Account) (summaries info remarks : Text) :
    Prop where
  summaries : Url.read (a.base ++ summaries) = .ok urls.summaries
  info : Url.read (a.base ++ info) = .ok urls.info
  remarks : Url.read (a.base ++ remarks) = .ok urls.remarks

/-- What a forge is sent and how its replies are taken. -/
structure Wire extends Addresses where
  title : Text
  mayBeEmpty : Bool
  headers : Entries Text
  /-- The field that names commits, and the names of those that are needed. -/
  refs : Text
  commits : List Text
  /-- Where an issue lies, by what the field holds. -/
  position : Entries Value → Issue → Entries Value
  /-- The name for what is answered to the comments on issues. -/
  answers : Text

namespace Wire

variable (w : Wire)

def posted (url : Text) (data : Entries Value) : Request where
  method := "POST"
  url := url
  headers := w.headers
  body := some (Json.compact Json.ascii (.object data))

/-- The comment about the whole, and the question about the changes. -/
def opening (body : Text) : List Request :=
  [w.posted w.summaries [("body".toList, .text body)],
    { method := "GET", url := w.info, headers := w.headers, body := none }]

/-- The comment on an issue. -/
def remark (refs : Entries Value) (i : Issue) : Request :=
  w.posted w.remarks (("body".toList, .text (remarkOf i)) :: w.position refs i)

/-- What the request after `n` others comes to. -/
def outcome (line : Line Request Reply) (n : Nat) : Except Failure Value := do
  let reply ← line.outcome n
  if reply.failed then .error (.refused w.title reply.status reply.body)
  else if w.mayBeEmpty ∧ reply.body = [] then .ok (.object []) else Settings.readJson reply.body

/-- What is told about a comment on an issue: what was answered, or why it was not accepted. -/
def entry (i : Issue) : Except Failure Value → Value
  | .ok v => v
  | .error f => .object [("error".toList, .text f.message), ("issue".toList, .text i.message)]

/-- What is answered in the end. -/
def answer (v : Value) (vs : List Value) : Value :=
  .object [("summary_comment".toList, v), (w.answers, .list vs)]

/-- The commits that are needed are all there. -/
def Names (info : Value) (refs : Entries Value) : Prop :=
  info.field? w.refs = some (.object refs)
    ∧ ∀ name ∈ w.commits, ∃ v, Entries.get? refs name = some v ∧ v.holds = true

theorem outcome_after (line : Line Request Reply) (qs : List Request) (n : Nat) :
    w.outcome (line.after qs) n = w.outcome line (qs.length + n) := by
  rw [outcome, outcome, Line.outcome_after]

end Wire

/-- The issues that are commented: the first twenty of the two worst levels, file by file. -/
def commented (r : ReviewResult) : List Issue :=
  (r.issues.filter fun i => i.severity = .level .critical || i.severity = .level .high).take 20

/-- How the requests about a review follow each other, and what is answered in the end. -/
structure Proceeds (w : Wire) (r : ReviewResult) (body : Text) (line : Line Request Reply)
    (post : Exchange Value) : Prop where
  refused : ∀ f, w.outcome line 0 = .error f →
    post.run line = (.error f, line.after ((w.opening body).take 1))
  uninformed : ∀ v f, w.outcome line 0 = .ok v → w.outcome line 1 = .error f →
    post.run line = (.error f, line.after (w.opening body))
  placed : ∀ v info refs, w.outcome line 0 = .ok v → w.outcome line 1 = .ok info →
    w.Names info refs → post.run line
      = (.ok (w.answer v ((commented r).mapIdx fun n i => Wire.entry i (w.outcome line (2 + n)))),
        line.after (w.opening body ++ (commented r).map (w.remark refs)))

/-- How a review ends if the changes are told about, but not by which commits. -/
structure Unplaced (w : Wire) (body : Text) (line : Line Request Reply) (post : Exchange Value)
    (v : Value) (fields : Entries Value) : Prop where
  missing : Entries.get? fields w.refs = none →
    post.run line = (.ok (w.answer v []), line.after (w.opening body))
  incomplete : ∀ refs, Entries.get? fields w.refs = some (.object refs) →
    (∃ name ∈ w.commits, ∀ u, Entries.get? refs name = some u → u.holds = false) →
      post.run line = (.ok (w.answer v []), line.after (w.opening body))
  other : ∀ u, Entries.get? fields w.refs = some u → (∀ refs, u ≠ .object refs) →
    post.run line = (.error (.missingMember u.kind "get"), line.after (w.opening body))

/-! ## Requests -/

namespace Discussion

variable (d : Discussion) (a : Account) (urls : Addresses)

/-- The addresses can be read. -/
abbrev Addressed : Prop :=
  urls.Follow a d.summaries d.info d.remarks

/-- What goes over the line in a discussion. -/
def wire : Wire where
  toAddresses := urls
  title := d.api.title
  mayBeEmpty := d.api.mayBeEmpty
  headers := d.api.headers a.token
  refs := d.refs
  commits := d.commits
  position refs := d.position (named refs)
  answers := d.remarksName

variable {d a urls} (line : Line Request Reply)

theorem outcome_eq (n : Nat) : (d.wire a urls).outcome line n = line.outcome n >>= d.api.read := by
  unfold Wire.outcome Api.read
  simp only [Bool.and_eq_true, List.isEmpty_iff]
  rfl

variable (d urls) in
theorem send_run {endpoint url : Text} (h : Url.read (a.base ++ endpoint) = .ok url)
    (method : Text) (data : Option Value) :
    (d.api.send a method endpoint data).run line
      = ((d.wire a urls).outcome line 0, line.after [d.api.request a method url data]) := by
  have hask : (Line.ask (d.api.request a method url data)).run line = _ := line.send_eq _
  rw [Api.send, h, outcome_eq]
  change (Line.ask (d.api.request a method url data) >>= fun reply =>
    Course.lift (d.api.read reply)).run line = _
  cases hreply : line.outcome 0 with
  | error f => rw [Course.run_bind_error (hask.trans (by rw [hreply]))]; rfl
  | ok reply => rw [Course.run_bind_ok (hask.trans (by rw [hreply]))]; rfl

theorem inlineComment_of_rated {i : Issue} (h : i.Rated) : inlineComment i = .ok (remarkOf i) := by
  have hupper := h.upper
  obtain ⟨s, hs⟩ := h
  unfold inlineComment remarkOf
  rw [← Report.sections_eq_intercalate, ← hupper, hs]
  simp only [List.isEmpty_iff]
  rfl

theorem postIssue_run (h : d.Addressed a urls) {i : Issue} (hrated : i.Rated)
    (refs : Entries Value) :
    (d.postIssue a (named refs) i).run line = (.ok (Wire.entry i ((d.wire a urls).outcome line 0)),
      line.after [(d.wire a urls).remark refs i]) := by
  have hsend := d.send_run urls line h.remarks "POST"
    (some (d.remark (named refs) i (remarkOf i)))
  rw [postIssue, inlineComment_of_rated hrated]
  refine (Course.run_bind_ok (Course.run_attempt hsend) _).trans ?_
  cases (d.wire a urls).outcome line 0 <;> rfl

/-- The run over some issues: each takes one request, whatever comes of it. -/
theorem mapM_postIssue_run (h : d.Addressed a urls) {issues : List Issue}
    (hrated : ∀ i ∈ issues, i.Rated) (refs : Entries Value) (line : Line Request Reply) :
    (issues.mapM (d.postIssue a (named refs))).run line
      = (.ok (issues.mapIdx fun n i => Wire.entry i ((d.wire a urls).outcome line n)),
        line.after (issues.map ((d.wire a urls).remark refs))) := by
  induction issues generalizing line with
  | nil =>
    rw [List.map_nil, Line.after_nil]
    rfl
  | cons i issues ih =>
    have hpost := postIssue_run line h (hrated i List.mem_cons_self) refs
    have hrun := ih (fun j hj => hrated j (List.mem_cons_of_mem i hj))
      (line.after [(d.wire a urls).remark refs i])
    -- The other issues meet what is left of the line, so their places go up by one.
    rw [List.mapM_cons, Course.run_bind_ok hpost, Course.run_bind_ok hrun, Line.after_after,
      List.mapIdx_cons]
    simp only [Wire.outcome_after, List.length_singleton, Nat.add_comm 1]
    rfl

/-! ## Commits -/

theorem hasCommits_named_iff {refs : Entries Value} :
    d.hasCommits (named refs) = true
      ↔ ∀ name ∈ d.commits, ∃ v, Entries.get? refs name = some v ∧ v.holds = true := by
  rw [hasCommits, List.all_eq_true]
  refine forall₂_congr fun name _ => ?_
  rw [named]
  cases Entries.get? refs name with
  | none => simp [Value.holds]
  | some v => simp

theorem commitsIn_of_missing {fields : Entries Value} (h : Entries.get? fields d.refs = none) :
    d.commitsIn (.object fields) = .ok (named []) := by
  rw [commitsIn, fieldOf, h]
  rfl

theorem commitsIn_of_object {fields refs : Entries Value}
    (h : Entries.get? fields d.refs = some (.object refs)) :
    d.commitsIn (.object fields) = .ok (named refs) := by
  rw [commitsIn, fieldOf, h]
  rfl

theorem commitsIn_of_other {fields : Entries Value} {w : Value}
    (h : Entries.get? fields d.refs = some w) (hw : ∀ refs, w ≠ .object refs) :
    d.commitsIn (.object fields) = .error (.missingMember w.kind "get") := by
  rw [commitsIn, fieldOf, h]
  cases w with
  | object refs => exact absurd rfl (hw refs)
  | _ => rfl

theorem commitsIn_of_names {info : Value} {refs : Entries Value}
    (h : (d.wire a urls).Names info refs) : d.commitsIn info = .ok (named refs) := by
  cases info with
  | object fields => exact commitsIn_of_object h.1
  | _ => exact nomatch h.1

/-! ## The course of a review -/

theorem postIssues_run (h : d.Addressed a urls) {r : ReviewResult}
    (hrated : ∀ i ∈ r.issues, i.Rated) {refs : Entries Value}
    (hcommits : d.hasCommits (named refs) = true) (line : Line Request Reply) :
    (d.postIssues a r (named refs)).run line
      = (.ok ((commented r).mapIdx fun n i => Wire.entry i ((d.wire a urls).outcome line n)),
        line.after ((commented r).map ((d.wire a urls).remark refs))) := by
  rw [postIssues, hcommits, serious_eq_filter hrated]
  exact mapM_postIssue_run h
    (fun i hi => hrated i (List.mem_of_mem_filter (List.mem_of_mem_take hi))) refs line

section Run

variable (h : d.Addressed a urls) {r : ReviewResult} {body : Text}
  (hbody : summary r true = .ok body)
include h

theorem postRemarks_run (r : ReviewResult) (body : Text) :
    (d.postRemarks a r).run line
      = (Course.lift ((d.wire a urls).outcome line 0 >>= d.commitsIn) >>= d.postIssues a r).run
        (line.after (((d.wire a urls).opening body).drop 1)) := by
  have hsend := d.send_run urls line h.info "GET" none
  rw [postRemarks]
  cases htold : (d.wire a urls).outcome line 0 with
  | error f => exact Course.run_bind_error (hsend.trans (by rw [htold]; rfl)) _
  | ok info => exact Course.run_bind_ok (hsend.trans (by rw [htold]; rfl)) _

include hbody

theorem post_of_refused {f : Failure} (hfirst : (d.wire a urls).outcome line 0 = .error f) :
    (d.post a r true).run line
      = (.error f, line.after (((d.wire a urls).opening body).take 1)) := by
  have hsend := d.send_run urls line h.summaries "POST" (some (whole body))
  rw [hfirst] at hsend
  rw [post, hbody]
  exact Course.run_bind_error hsend _

/-- A comment that is accepted is followed by what is known about the commits. -/
theorem post_of_accepted {v : Value} (hfirst : (d.wire a urls).outcome line 0 = .ok v)
    {x : Except Failure (List Value)} {line' : Line Request Reply}
    (hissues : (Course.lift ((d.wire a urls).outcome line 1 >>= d.commitsIn)
      >>= d.postIssues a r).run (line.after ((d.wire a urls).opening body)) = (x, line')) :
    (d.post a r true).run line = (x.map ((d.wire a urls).answer v), line') := by
  have hsend := d.send_run urls line h.summaries "POST" (some (whole body))
  -- The outcomes that the comments on lines meet are counted from the second request on.
  have hrun := postRemarks_run (line.after (((d.wire a urls).opening body).take 1)) h r body
  rw [Line.after_after, Wire.outcome_after] at hrun
  replace hrun := hrun.trans hissues
  rw [post, hbody]
  refine (Course.run_bind_ok (hsend.trans (by rw [hfirst])) _).trans ?_
  cases x with
  | error f => exact Course.run_bind_error hrun _
  | ok vs => exact Course.run_bind_ok hrun _

/-- The same, if the changes are told about. -/
theorem post_of_told {v info : Value} (hfirst : (d.wire a urls).outcome line 0 = .ok v)
    (hsecond : (d.wire a urls).outcome line 1 = .ok info) {x : Except Failure (List Value)}
    {line' : Line Request Reply}
    (hissues : (Course.lift (d.commitsIn info) >>= d.postIssues a r).run
      (line.after ((d.wire a urls).opening body)) = (x, line')) :
    (d.post a r true).run line = (x.map ((d.wire a urls).answer v), line') :=
  post_of_accepted line h hbody hfirst (by rw [hsecond]; exact hissues)

end Run

theorem proceeds_post (h : d.Addressed a urls) {r : ReviewResult} (hrated : ∀ i ∈ r.issues, i.Rated)
    {body : Text} (hbody : summary r true = .ok body) :
    Proceeds (d.wire a urls) r body line (d.post a r true) := by
  refine ⟨fun f hfirst => post_of_refused line h hbody hfirst, fun v f hfirst hsecond => ?_,
    fun v info refs hfirst hsecond hnames => ?_⟩
  · exact post_of_accepted line h hbody hfirst (by rw [hsecond]; rfl)
  · have hrun := postIssues_run h hrated (hasCommits_named_iff.mpr hnames.2)
      (line.after ((d.wire a urls).opening body))
    rw [Line.after_after] at hrun
    simp only [Wire.outcome_after] at hrun
    refine post_of_told line h hbody hfirst hsecond (x := .ok _) ?_
    rw [commitsIn_of_names hnames]
    exact hrun

theorem unplaced_post (h : d.Addressed a urls) (hcommits : d.commits ≠ []) {r : ReviewResult}
    {body : Text} (hbody : summary r true = .ok body) {v : Value} {fields : Entries Value}
    (hfirst : (d.wire a urls).outcome line 0 = .ok v)
    (hsecond : (d.wire a urls).outcome line 1 = .ok (.object fields)) :
    Unplaced (d.wire a urls) body line (d.post a r true) v fields := by
  have hnone : ∀ refs, d.commitsIn (.object fields) = .ok (named refs) →
      d.hasCommits (named refs) = false → (d.post a r true).run line
        = (.ok ((d.wire a urls).answer v []), line.after ((d.wire a urls).opening body)) := by
    intro refs hin hhas
    refine post_of_told line h hbody hfirst hsecond (x := .ok []) ?_
    rw [hin]
    change (d.postIssues a r (named refs)).run _ = _
    rw [postIssues, hhas]
    rfl
  refine ⟨fun hget => hnone [] (commitsIn_of_missing hget) ?_,
    fun refs hget hlack => hnone refs (commitsIn_of_object hget) ?_, fun u hget hu => ?_⟩
  · obtain ⟨name, names, hnames⟩ := List.exists_cons_of_ne_nil hcommits
    rw [hasCommits, hnames]
    rfl
  · obtain ⟨name, hname, hfalse⟩ := hlack
    refine Bool.eq_false_iff.mpr fun hhas => ?_
    obtain ⟨u, hu, hholds⟩ := hasCommits_named_iff.mp hhas name hname
    exact absurd hholds (by rw [hfalse u hu]; decide)
  · refine post_of_told line h hbody hfirst hsecond (x := .error _) ?_
    rw [commitsIn_of_other hget hu]
    rfl

end Discussion

/-! ## Both forges -/

/-- The addresses of a pull request can be read. -/
def GitHub.Addressed (a : Account) (repo : Repository) (number : Text) (urls : Addresses) : Prop :=
  let base := "/repos/" ++ repo.owner ++ "/" ++ repo.name
  urls.Follow a (base ++ "/issues/" ++ number ++ "/comments") (base ++ "/pulls/" ++ number)
    (base ++ "/pulls/" ++ number ++ "/comments")

def GitHub.wire (a : Account) (urls : Addresses) : Wire where
  toAddresses := urls
  title := "GitHub"
  mayBeEmpty := false
  headers :=
    [("authorization".toList, "Bearer " ++ a.token),
      ("accept".toList, "application/vnd.github.v3+json"),
      ("content-type".toList, "application/json")]
  refs := "head"
  commits := ["sha"]
  position refs i :=
    [("commit_id".toList, (Entries.get? refs "sha").getD .null), ("path".toList, .text i.file),
      ("line".toList, .number (.int i.line))]
  answers := "inline_comments"

/-- The addresses of a merge request can be read. -/
def GitLab.Addressed (a : Account) (m : MergeRequest) (urls : Addresses) : Prop :=
  let base := "/projects/" ++ m.project ++ "/merge_requests/" ++ m.number
  urls.Follow a (base ++ "/notes") base (base ++ "/discussions")

def GitLab.wire (a : Account) (urls : Addresses) : Wire where
  toAddresses := urls
  title := "GitLab"
  mayBeEmpty := true
  headers := [("private-token".toList, a.token), ("content-type".toList, "application/json")]
  refs := "diff_refs"
  commits := ["head_sha", "base_sha"]
  position refs i :=
    let base := (Entries.get? refs "base_sha").getD .null
    [("position".toList, .object
      [("base_sha".toList, base), ("start_sha".toList, base),
        ("head_sha".toList, (Entries.get? refs "head_sha").getD .null),
        ("position_type".toList, .text "text"), ("new_path".toList, .text i.file),
        ("new_line".toList, .number (.int i.line))])]
  answers := "inline_discussions"

section Both

variable {r : ReviewResult} {hub lab : Account} {repo : GitHub.Repository} {number : Text}
  {merge : GitLab.MergeRequest} {hubUrls labUrls : Addresses}
  (hhub : GitHub.Addressed hub repo number hubUrls) (hlab : GitLab.Addressed lab merge labUrls)
  (line : Line Request Reply)
include hhub hlab

/-- Whatever is answered, a review is posted to either forge in the same order. The comment about
the whole comes first, then the question about the changes, then one comment on each of the issues
that are commented. The first failure of the first two requests ends it. A failure of a later one is
told in the place of its answer, with the message of its issue. -/
theorem reviews_posted (hrated : ∀ f ∈ r.files, f.Rated) :
    ∃ body, summary r true = .ok body
      ∧ Proceeds (GitHub.wire hub hubUrls) r body line (GitHub.postReview hub repo number r true)
      ∧ Proceeds (GitLab.wire lab labUrls) r body line (GitLab.postReview lab merge r true) := by
  have hissues := ReviewResult.rated_of_mem_issues hrated
  obtain ⟨body, hbody, -⟩ := exists_summary_tops hissues
  exact ⟨body, hbody,
    Discussion.proceeds_post (d := GitHub.discussion repo number) line hhub hissues hbody,
    Discussion.proceeds_post (d := GitLab.discussion merge) line hlab hissues hbody⟩

/-- A review whose changes are told about without the commits ends after the question about them, at
either forge. It ends well if the references are missing or incomplete. It ends with a failure if
something else than an object, such as a null, stands in their place. -/
theorem reviews_unplaced {body : Text} (hbody : summary r true = .ok body) :
    (∀ v fields, (GitHub.wire hub hubUrls).outcome line 0 = .ok v →
      (GitHub.wire hub hubUrls).outcome line 1 = .ok (.object fields) →
        Unplaced (GitHub.wire hub hubUrls) body line (GitHub.postReview hub repo number r true)
          v fields)
    ∧ ∀ v fields, (GitLab.wire lab labUrls).outcome line 0 = .ok v →
      (GitLab.wire lab labUrls).outcome line 1 = .ok (.object fields) →
        Unplaced (GitLab.wire lab labUrls) body line (GitLab.postReview lab merge r true)
          v fields :=
  ⟨fun _ _ => Discussion.unplaced_post (d := GitHub.discussion repo number) line hhub
      (List.cons_ne_nil _ _) hbody,
    fun _ _ => Discussion.unplaced_post (d := GitLab.discussion merge) line hlab
      (List.cons_ne_nil _ _) hbody⟩

end Both

/-! ## Some replies -/

def hubUrls : Addresses where
  summaries := "https://api.github.com/repos/o/n/issues/7/comments"
  info := "https://api.github.com/repos/o/n/pulls/7"
  remarks := "https://api.github.com/repos/o/n/pulls/7/comments"

def labUrls : Addresses where
  summaries := "https://gitlab.com/api/v4/projects/1/merge_requests/7/notes"
  info := "https://gitlab.com/api/v4/projects/1/merge_requests/7"
  remarks := "https://gitlab.com/api/v4/projects/1/merge_requests/7/discussions"

def hubWire : Wire :=
  GitHub.wire hubAccount hubUrls

theorem addressed_hubUrls : GitHub.Addressed hubAccount someRepository "7" hubUrls :=
  ⟨by decide +kernel, by decide +kernel, by decide +kernel⟩

theorem addressed_labUrls : GitLab.Addressed labAccount ⟨"1", "7"⟩ labUrls :=
  ⟨by decide +kernel, by decide +kernel, by decide +kernel⟩

/-- A line on which the comment about the whole is accepted and the changes are told about. The
first comment on an issue is refused, and the next one is accepted. -/
def telling (info : Text) : Line Request Reply where
  answers := [.ok { status := 201, body := "\x7b\x7d" }, .ok { status := 200, body := info },
    .ok { status := 500, body := "no" }, .ok { status := 201, body := "\x7b\x7d" }]
  silence := .broken "silent"

/-- What tells the commit of a pull request. -/
def headInfo : Text :=
  "\x7b\"head\": \x7b\"sha\": \"c\"\x7d\x7d"

/-- What is known about an answer, without the answer itself. -/
theorem exists_of_map {α β : Type} {x : Except Failure α} {f : α → Option β} {b : β}
    (h : x.map f = .ok (some b)) : ∃ a, x = .ok a ∧ f a = some b := by
  cases x with
  | ok a => exact ⟨a, rfl, Except.ok.inj h⟩
  | error e => cases h

theorem accepted_telling (info : Text) : ∃ v, hubWire.outcome (telling info) 0 = .ok v :=
  Steps.exists_ok_of_isSome (show (hubWire.outcome (telling []) 0).toOption.isSome = true by
    decide +kernel)

theorem reviews_posted_crowded :
    ∃ body refs v vs, Entries.get? refs "sha" = some (.text "c")
      ∧ (GitHub.postReview hubAccount someRepository "7" crowded true).run (telling headInfo)
        = (.ok (.object [("summary_comment".toList, v), ("inline_comments".toList, .list vs)]),
          (telling headInfo).after (hubWire.opening body
            ++ (commented crowded).map (hubWire.remark refs)))
      ∧ (commented crowded).map (·.line) = [1, 3, 5, 7, 9, 11]
      ∧ vs.length = 6 ∧ vs[1]?.map Value.kind = some "dict"
      ∧ vs[0]?.bind (·.field? "issue") = some (.text "Todo") := by
  obtain ⟨body, -, hproceeds, -⟩ :=
    reviews_posted addressed_hubUrls addressed_labUrls (telling headInfo) rated_crowded
  obtain ⟨v, hfirst⟩ := accepted_telling headInfo
  have hsha : (hubWire.outcome (telling headInfo) 1).map (fun v => (v.field? "head").bind fun u =>
      (u.field? "sha").bind Value.text?) = .ok (some "c".toList) := by decide +kernel
  have hkind : (hubWire.outcome (telling headInfo) 3).map (fun v => some v.kind)
      = .ok (some "dict".toList) := by decide +kernel
  obtain ⟨info, hsecond, hinfo⟩ := exists_of_map hsha
  obtain ⟨w, hfourth, hdict⟩ := exists_of_map hkind
  obtain ⟨u, hhead, hcommit⟩ := Option.bind_eq_some_iff.mp hinfo
  obtain ⟨sha, hget, htext⟩ := Option.bind_eq_some_iff.mp hcommit
  cases u with
  | object refs =>
    obtain rfl : sha = .text "c" := by
      cases sha <;> cases htext
      rfl
    have hnames : hubWire.Names info refs := by
      refine ⟨hhead, fun name hname => ?_⟩
      obtain rfl := List.mem_singleton.mp hname
      exact ⟨_, hget, rfl⟩
    have hrun := hproceeds.placed _ _ _ hfirst hsecond hnames
    refine ⟨body, refs, v, _, hget, hrun, rfl, List.length_mapIdx, ?_, rfl⟩
    rw [List.getElem?_mapIdx]
    change some (Wire.entry _ (hubWire.outcome (telling headInfo) 3)).kind = _
    rw [hfourth]
    exact hdict
  | _ => cases hget

theorem reviews_unplaced_empty :
    ∃ body v,
      (GitHub.postReview hubAccount someRepository "7" crowded true).run (telling "\x7b\x7d")
        = (.ok (hubWire.answer v []), (telling "\x7b\x7d").after (hubWire.opening body)) := by
  obtain ⟨body, hbody, -⟩ := exists_summary_tops (ReviewResult.rated_of_mem_issues rated_crowded)
  obtain ⟨v, hfirst⟩ := accepted_telling "\x7b\x7d"
  have hfields : (hubWire.outcome (telling "\x7b\x7d") 1).map (fun v => v.fields?.map fun fields =>
      (Entries.get? fields "head").isNone) = .ok (some true) := by decide +kernel
  obtain ⟨info, hsecond, hinfo⟩ := exists_of_map hfields
  cases info with
  | object fields =>
    have hends := (reviews_unplaced addressed_hubUrls addressed_labUrls (telling "\x7b\x7d")
      hbody).1 _ _ hfirst hsecond
    exact ⟨body, v, hends.missing (Option.isNone_iff_eq_none.mp (Option.some.inj hinfo))⟩
  | _ => cases hinfo

/-- What tells that a pull request has no commit, by a null. -/
def nullInfo : Text :=
  "\x7b\"head\": null\x7d"

theorem reviews_unplaced_null :
    ((hubWire.outcome (telling nullInfo) 1).map fun v => (v.field? "head").map Value.kind)
        = .ok (some "NoneType")
      ∧ ∃ body,
        (GitHub.postReview hubAccount someRepository "7" crowded true).run (telling nullInfo)
        = (.error (.missingMember "NoneType" "get"),
          (telling nullInfo).after (hubWire.opening body)) := by
  obtain ⟨body, hbody, -⟩ := exists_summary_tops (ReviewResult.rated_of_mem_issues rated_crowded)
  obtain ⟨v, hfirst⟩ := accepted_telling nullInfo
  have hnull : ((hubWire.outcome (telling nullInfo) 1).map fun v =>
      (v.field? "head").map Value.kind) = .ok (some "NoneType") := by decide +kernel
  obtain ⟨info, hsecond, hinfo⟩ := exists_of_map hnull
  obtain ⟨u, hget, hkind⟩ := Option.map_eq_some_iff.mp hinfo
  refine ⟨hnull, body, ?_⟩
  -- Only the kind of the field counts, so the object need not be known.
  cases info with
  | object fields =>
    have hends := Discussion.unplaced_post (d := GitHub.discussion someRepository "7") _
      addressed_hubUrls (List.cons_ne_nil _ _) hbody hfirst hsecond
    have hother : ∀ refs, u ≠ .object refs := by
      rintro refs rfl
      exact absurd (show "dict".toList = "NoneType".toList from hkind) (by decide)
    rw [← hkind]
    exact hends.other u hget hother
  | _ => cases hget

end CodeReview.Forge
