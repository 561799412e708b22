import CodeReview.Forge.GitHub
import CodeReview.Forge.GitLab
import CodeReview.Proofs.Commands
import Mathlib.Data.List.TFAE
import Mathlib.Tactic.TFAE

/-!
# The gates before a merge

A check of a commit, the state of a commit, the check on the command line and the comments at single
lines all say whether changes are too bad to be taken in. Two of them read the counts of a summary,
the others look through the issues again. They never disagree.

The accounts are any accounts; only the addresses that are made from them have to be addresses,
since otherwise nothing is sent at all.
-/

namespace CodeReview

open Reviewer

/-- Of one of the two worst levels. -/
def Issue.Serious (i : Issue) : Prop :=
  i.severity = .level .critical ∨ i.severity = .level .high

theorem Issue.Rated.serious_iff {i : Issue} (h : i.Rated) :
    i.Serious ↔ i.severity.rank ≤ Severity.high.rank := by
  obtain ⟨s, hs⟩ := h
  rw [Issue.Serious, hs]
  cases s <;> decide

/-! ## The gates that count -/

section Counting

variable {now : Text} {files : List FileResult}

/-- A count is positive just if there is something to count. -/
theorem countOf_summary_pos (h : ∀ i ∈ found files, i.Rated) (s : Severity) :
    0 < (summary now files).countOf s ↔ ∃ i ∈ found files, i.severity = .level s := by
  rw [ReviewResult.countOf, bySeverity_summary h now s, Entries.stored]
  have hcount : 0 < (found files).countP (fun i => i.severity = .level s)
      ↔ ∃ i ∈ found files, i.severity = .level s := by
    rw [List.countP_pos_iff]
    simp only [decide_eq_true_eq]
  split
  · rename_i hzero
    rw [← hcount, hzero]
    decide
  · rename_i hpos
    rw [← hcount]
    change (0 : Int) < ((found files).countP _ : Nat) ↔ _
    omega

theorem blocks_summary_iff (h : ∀ i ∈ found files, i.Rated) :
    Forge.blocks (summary now files) = true ↔ ∃ i ∈ found files, i.Serious := by
  rw [Forge.blocks, Bool.or_eq_true, decide_eq_true_eq, decide_eq_true_eq,
    countOf_summary_pos h, countOf_summary_pos h]
  constructor
  · rintro (⟨i, hi, hlevel⟩ | ⟨i, hi, hlevel⟩)
    · exact ⟨i, hi, .inl hlevel⟩
    · exact ⟨i, hi, .inr hlevel⟩
  · rintro ⟨i, hi, hlevel | hlevel⟩
    · exact .inl ⟨i, hi, hlevel⟩
    · exact .inr ⟨i, hi, hlevel⟩

/-- Where skipped files have no issues, nothing is lost by leaving them out. -/
theorem mem_found_iff (h : ∀ f ∈ files, f.skipped = true → f.issues = []) {i : Issue} :
    i ∈ found files ↔ ∃ f ∈ files, i ∈ f.issues := by
  rw [found, List.mem_flatMap]
  constructor
  · rintro ⟨f, hf, hi⟩
    exact ⟨f, List.mem_of_mem_filter hf, hi⟩
  · rintro ⟨f, hf, hi⟩
    refine ⟨f, List.mem_filter.mpr ⟨hf, ?_⟩, hi⟩
    cases hskipped : f.skipped with
    | false => rfl
    | true =>
      rw [h f hf hskipped] at hi
      exact absurd hi List.not_mem_nil

end Counting

/-! ## The gates that look through the issues -/

section Looking

variable {r : ReviewResult} (h : ∀ i ∈ r.issues, i.Rated)
include h

theorem failing_ne_nil_iff :
    Command.failing "high" (Command.issuesOf (.review r)) ≠ [] ↔ ∃ i ∈ r.issues, i.Serious := by
  have hhigh : Rating.ofText "high" = .level .high := by decide
  rw [Command.failing, hhigh, ne_eq, List.filter_eq_nil_iff]
  simp only [not_forall, decide_eq_true_eq, not_not]
  constructor
  · rintro ⟨i, hi, hrank⟩
    exact ⟨i, hi, (h i hi).serious_iff.mpr hrank⟩
  · rintro ⟨i, hi, hserious⟩
    exact ⟨i, hi, (h i hi).serious_iff.mp hserious⟩

/-- Every issue can be asked whether it gets a comment. -/
theorem serious_eq_filter :
    Forge.serious r = .ok (r.issues.filter fun i =>
      i.severity = .level .critical || i.severity = .level .high) := by
  refine Steps.filterM_ok fun i hi => ?_
  obtain ⟨s, hs⟩ := h i hi
  rw [hs]
  cases s <;> rfl

theorem exists_serious :
    ∃ issues, Forge.serious r = .ok issues ∧ (issues ≠ [] ↔ ∃ i ∈ r.issues, i.Serious) := by
  refine ⟨_, serious_eq_filter h, ?_⟩
  rw [ne_eq, List.filter_eq_nil_iff]
  simp only [Bool.or_eq_true, decide_eq_true_eq, not_forall, not_not, Issue.Serious, exists_prop]

end Looking

/-! ## What is sent -/

namespace Forge

/-- Steps that ask nothing. -/
def Quiet (steps : Exchange Value) : Prop :=
  ∀ line : Line Request Reply, (steps.run line).2 = line

/-- A question is remembered, whatever becomes of the answer. -/
theorem asked_ask_bind (q : Request) {then' : Reply → Exchange Value}
    (h : ∀ reply, Quiet (then' reply)) (line : Line Request Reply) :
    ((Line.ask q >>= then').run line).2.asked = line.asked ++ [q] := by
  obtain ⟨answers, silence, asked⟩ := line
  cases answers with
  | nil => rfl
  | cons answer rest =>
    cases answer with
    | error f => rfl
    | ok reply =>
      change ((then' reply).run _).2.asked = _
      rw [h]

/-- Steps that put one question, at this address and with this body, whatever is answered. -/
def Posts (steps : Exchange Value) (url : Text) (body : Value) : Prop :=
  ∀ line : Line Request Reply, ∃ q : Request,
    (steps.run line).2.asked = line.asked ++ [q]
    ∧ q.method = "POST" ∧ q.url = url ∧ q.body = some (Json.compact Json.ascii body)

theorem posts_send (api : Api) {a : Account} {endpoint url : Text}
    (h : Url.read (a.base ++ endpoint) = .ok url) (body : Value) :
    Posts (api.send a "POST" endpoint (some body)) url body := by
  intro line
  refine ⟨{ method := "POST", url := url, headers := api.headers a.token,
            body := some (Json.compact Json.ascii body) }, ?_, rfl, rfl, rfl⟩
  rw [Api.send, h]
  -- The address can be read, so the question is put; the answer is only looked at.
  exact asked_ask_bind _ (fun reply line => rfl) line

theorem posts_createCheck {a : Account} {repository : GitHub.Repository} {url : Text}
    (hurl : Url.read (a.base ++ (repository.endpoint ++ "/check-runs")) = .ok url)
    {r : ReviewResult} (h : ∀ i ∈ r.issues, i.Rated) (commit name : Value) :
    ∃ body, Posts (GitHub.createCheck a repository commit r name) url body
      ∧ body.field? "conclusion" = some (.text (GitHub.conclusion r)) := by
  have hshown : ∀ i ∈ r.files.flatMap fun f => f.issues.take GitHub.maxAnnotations,
      ∃ v, GitHub.annotation i = .ok v := by
    intro i hi
    obtain ⟨f, hf, hin⟩ := List.mem_flatMap.mp hi
    obtain ⟨s, hs⟩ := h i (List.mem_flatMap.mpr ⟨f, hf, List.mem_of_mem_take hin⟩)
    exact ⟨_, by rw [GitHub.annotation, hs]; rfl⟩
  obtain ⟨annotations, hannotations⟩ := Steps.exists_mapM hshown
  rw [GitHub.createCheck, hannotations]
  refine ⟨_, posts_send _ hurl _, ?_⟩
  simp [Value.field?, Entries.get?]

theorem posts_setStatus {a : Account} {project commit url : Text}
    (hurl : Url.read (a.base ++ ("/projects/" ++ project ++ "/statuses/" ++ commit)) = .ok url)
    (r : ReviewResult) (name : Value) :
    ∃ body, Posts (GitLab.setStatus a project commit r name) url body
      ∧ body.field? "state" = some (.text (GitLab.state r)) := by
  refine ⟨_, posts_send _ hurl _, ?_⟩
  simp [Value.field?, Entries.get?]

/-! ## Agreement -/

theorem conclusion_eq_failure_iff (r : ReviewResult) :
    GitHub.conclusion r = "failure".toList ↔ blocks r = true := by
  rw [GitHub.conclusion]
  cases blocks r <;> decide

theorem state_eq_failed_iff (r : ReviewResult) :
    GitLab.state r = "failed".toList ↔ blocks r = true := by
  rw [GitLab.state]
  cases blocks r <;> decide

/-- All gates are shut by the same results: those of files of which one has an issue of one of the
two worst levels. -/
theorem gates_agree (now : Text) {files : List FileResult} (hrated : ∀ f ∈ files, f.Rated)
    (hskipped : ∀ f ∈ files, f.skipped = true → f.issues = [])
    {hub lab : Account} {repository : GitHub.Repository} {project sha hubUrl labUrl : Text}
    (hhub : Url.read (hub.base ++ (repository.endpoint ++ "/check-runs")) = .ok hubUrl)
    (hlab : Url.read (lab.base ++ ("/projects/" ++ project ++ "/statuses/" ++ sha)) = .ok labUrl)
    (commit checkName statusName : Value) :
    ∃ r check status commented, aggregate now files = .ok r
      ∧ Posts (GitHub.createCheck hub repository commit r checkName) hubUrl check
      ∧ Posts (GitLab.setStatus lab project sha r statusName) labUrl status
      ∧ serious r = .ok commented
      ∧ List.TFAE
        [check.field? "conclusion" = some (.text "failure"),
          status.field? "state" = some (.text "failed"),
          Command.failing "high" (Command.issuesOf (.review r)) ≠ [],
          commented ≠ [],
          ∃ f ∈ files, ∃ i ∈ f.issues,
            i.severity = .level .critical ∨ i.severity = .level .high] := by
  have hfound := rated_of_mem_found hrated
  have hissues : ∀ i ∈ (Reviewer.summary now files).issues, i.Rated := by
    intro i hi
    obtain ⟨f, hf, hin⟩ := List.mem_flatMap.mp hi
    exact hrated f hf i hin
  obtain ⟨check, hcheck, hconclusion⟩ := posts_createCheck hhub hissues commit checkName
  obtain ⟨status, hstatus, hstate⟩ := posts_setStatus hlab (Reviewer.summary now files) statusName
  obtain ⟨commented, hcommented, hlisted⟩ := exists_serious hissues
  refine ⟨_, check, status, commented, aggregate_of_rated now hfound, hcheck, hstatus, hcommented,
    ?_⟩
  -- Every gate is compared with the last statement, in which no gate occurs.
  have hsome : (∃ i ∈ (Reviewer.summary now files).issues, i.Serious)
      ↔ ∃ f ∈ files, ∃ i ∈ f.issues, i.Serious := by
    constructor
    · rintro ⟨i, hi, hserious⟩
      obtain ⟨f, hf, hin⟩ := List.mem_flatMap.mp hi
      exact ⟨f, hf, i, hin, hserious⟩
    · rintro ⟨f, hf, i, hin, hserious⟩
      exact ⟨i, List.mem_flatMap.mpr ⟨f, hf, hin⟩, hserious⟩
  have hblocks : blocks (Reviewer.summary now files) = true
      ↔ ∃ f ∈ files, ∃ i ∈ f.issues, i.Serious := by
    rw [blocks_summary_iff hfound]
    constructor
    · rintro ⟨i, hi, hserious⟩
      obtain ⟨f, hf, hin⟩ := (mem_found_iff hskipped).mp hi
      exact ⟨f, hf, i, hin, hserious⟩
    · rintro ⟨f, hf, i, hin, hserious⟩
      exact ⟨i, (mem_found_iff hskipped).mpr ⟨f, hf, hin⟩, hserious⟩
  tfae_have 1 ↔ 5 := by
    rw [hconclusion, Option.some.injEq, Value.text.injEq, conclusion_eq_failure_iff]
    exact hblocks
  tfae_have 2 ↔ 5 := by
    rw [hstate, Option.some.injEq, Value.text.injEq, state_eq_failed_iff]
    exact hblocks
  tfae_have 3 ↔ 5 := (failing_ne_nil_iff hissues).trans hsome
  tfae_have 4 ↔ 5 := hlisted.trans hsome
  tfae_finish

/-- A file with an issue of the level `high`, and a file that was skipped. -/
def seriousFiles : List FileResult :=
  [{ file := "a.py"
     issues := [{ type := "eval_usage", severity := .level .high, file := "a.py", line := 1
                  message := [] }] },
    { file := "b.py", skipped := true }]

def hubAccount : Account where
  token := "t"
  base := GitHub.standardBase

def labAccount : Account where
  token := "t"
  base := GitLab.standardBase

def someRepository : GitHub.Repository where
  owner := "o"
  name := "n"

theorem gates_agree_seriousFiles :
    ∃ r check status,
      aggregate [] seriousFiles = .ok r
      ∧ Posts (GitHub.createCheck hubAccount someRepository .null r .null)
          "https://api.github.com/repos/o/n/check-runs" check
      ∧ Posts (GitLab.setStatus labAccount "1" "c" r .null)
          "https://gitlab.com/api/v4/projects/1/statuses/c" status
      ∧ check.field? "conclusion" = some (.text "failure")
      ∧ status.field? "state" = some (.text "failed")
      ∧ Command.failing "high" (Command.issuesOf (.review r)) ≠ [] := by
  have hrated : ∀ f ∈ seriousFiles, f.Rated := by
    simp [seriousFiles, FileResult.Rated, Issue.Rated]
  have hskipped : ∀ f ∈ seriousFiles, f.skipped = true → f.issues = [] := by
    simp [seriousFiles]
  have hhub : Url.read (hubAccount.base ++ (someRepository.endpoint ++ "/check-runs"))
      = .ok "https://api.github.com/repos/o/n/check-runs" := by decide
  have hlab : Url.read (labAccount.base ++ ("/projects/" ++ "1" ++ "/statuses/" ++ "c"))
      = .ok "https://gitlab.com/api/v4/projects/1/statuses/c" := by decide
  obtain ⟨r, check, status, _, hr, hcheck, hstatus, _, hall⟩ :=
    gates_agree [] hrated hskipped hhub hlab .null .null .null
  have hfile : ∃ f ∈ seriousFiles, ∃ i ∈ f.issues,
      i.severity = .level .critical ∨ i.severity = .level .high := by
    simp [seriousFiles]
  exact ⟨r, check, status, hr, hcheck, hstatus, (hall.out 0 4).mpr hfile, (hall.out 1 4).mpr hfile,
    (hall.out 2 4).mpr hfile⟩

end Forge

end CodeReview
