import CodeReview.Forge.Discussion

/-!
Reviews of merge requests on GitLab.
-/

namespace CodeReview.Forge.GitLab

def api : Api where
  title := "GitLab"
  headers token :=
    [("private-token".toList, token), ("content-type".toList, "application/json")]
  mayBeEmpty := true

def standardBase : Text :=
  "https://gitlab.com/api/v4"

/-- An account with a token, or with one of the environment. -/
def connect (env : Environment) (token base : Option Text) : Except Failure Account :=
  api.account [token, env.get? "GITLAB_TOKEN", env.get? "CI_JOB_TOKEN"] base "GITLAB_TOKEN"

/-- The account of a job that runs at the service itself. -/
def ofJob (env : Environment) : Except Failure Account :=
  connect env none (some ((env.get? "CI_SERVER_URL").getD "https://gitlab.com" ++ "/api/v4"))

/-- A merge request by the numbers of its project and its own. -/
structure MergeRequest where
  project : Text
  number : Text
  deriving DecidableEq, Repr

def MergeRequest.endpoint (m : MergeRequest) : Text :=
  "/projects/" ++ m.project ++ "/merge_requests/" ++ m.number

/-- What is known about a merge request. -/
def info (a : Account) (m : MergeRequest) : Exchange Value :=
  api.send a "GET" m.endpoint none

/-- The place where a merge request is discussed. Comments lie between two commits. -/
def discussion (m : MergeRequest) : Discussion where
  api := api
  summaries := m.endpoint ++ "/notes"
  info := m.endpoint
  remarks := m.endpoint ++ "/discussions"
  remarksName := "inline_discussions"
  refs := "diff_refs"
  commits := ["head_sha", "base_sha"]
  position commit i :=
    [("position".toList, .object
      [("base_sha".toList, commit "base_sha"), ("start_sha".toList, commit "base_sha"),
        ("head_sha".toList, commit "head_sha"), ("position_type".toList, .text "text"),
        ("new_path".toList, .text i.file), ("new_line".toList, .ofInt i.line)])]

/-- Tells a review to the people at a merge request. -/
def postReview (a : Account) (m : MergeRequest) (result : ReviewResult) (atLines : Bool) :
    Exchange Value :=
  (discussion m).post a result atLines

/-- The path of a changed file: the new one, or else the old one. -/
def changedPath (change : Value) : Except Failure Value := do
  let path ← fieldOf change "new_path" .null
  if path.holds then return path else fieldOf change "old_path" .null

/-- The files that a merge request changes. -/
def changedFiles (a : Account) (m : MergeRequest) : Exchange (List Value) := do
  let answer ← api.send a "GET" (m.endpoint ++ "/changes") none
  Course.lift do
    let changes ← membersOf (← fieldOf answer "changes" (.list []))
    (changes.filter Value.holds).mapM changedPath

def state (result : ReviewResult) : Text :=
  if blocks result then "failed" else "success"

/-- The length of a description that is not cut. -/
def maxDescription : Nat := 255

/-- Marks a commit with the result of a review. -/
def setStatus (a : Account) (project commit : Text) (result : ReviewResult) (name : Value) :
    Exchange Value :=
  let about : Text :=
    "Score: " ++ Text.ofInt result.score ++ "/100 - " ++ Text.ofInt result.totalIssues ++ " issues"
  api.send a "POST" ("/projects/" ++ project ++ "/statuses/" ++ commit)
    (some (.object
      [("state".toList, .text (state result)), ("name".toList, name),
        ("description".toList, .text (about.take maxDescription))]))

def standardStatus : Text :=
  "paila"

/-- The number of the project with a path. -/
def projectNumber (a : Account) (path : Text) : Exchange Value := do
  let answer ← api.send a "GET" ("/projects/" ++ Url.encode path) none
  Course.lift (fieldOf answer "id" .null)

end CodeReview.Forge.GitLab
