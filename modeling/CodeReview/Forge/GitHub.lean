import CodeReview.Forge.Discussion

/-!
Reviews of pull requests on GitHub.
-/

namespace CodeReview.Forge.GitHub

def api : Api where
  title := "GitHub"
  headers token :=
    [("authorization".toList, "Bearer " ++ token),
      ("accept".toList, "application/vnd.github.v3+json"),
      ("content-type".toList, "application/json")]
  mayBeEmpty := false

def standardBase : Text :=
  "https://api.github.com"

/-- An account with a token, or with the one of the environment. -/
def connect (env : Environment) (token base : Option Text) : Except Failure Account :=
  api.account [token, env.get? "GITHUB_TOKEN"] base "GITHUB_TOKEN"

/-- A repository by the names of its owner and its own. -/
structure Repository where
  owner : Text
  name : Text
  deriving DecidableEq, Repr

def Repository.endpoint (r : Repository) : Text :=
  "/repos/" ++ r.owner ++ "/" ++ r.name

/-- What is known about a pull request. -/
def info (a : Account) (r : Repository) (number : Text) : Exchange Value :=
  api.send a "GET" (r.endpoint ++ "/pulls/" ++ number) none

/-- The place where a pull request is discussed. Comments lie at the commit that it ends with. -/
def discussion (r : Repository) (number : Text) : Discussion where
  api := api
  summaries := r.endpoint ++ "/issues/" ++ number ++ "/comments"
  info := r.endpoint ++ "/pulls/" ++ number
  remarks := r.endpoint ++ "/pulls/" ++ number ++ "/comments"
  remarksName := "inline_comments"
  refs := "head"
  commits := ["sha"]
  position commit i :=
    [("commit_id".toList, commit "sha"), ("path".toList, .text i.file),
      ("line".toList, .ofInt i.line)]

/-- Tells a review to the people at a pull request. -/
def postReview (a : Account) (r : Repository) (number : Text) (result : ReviewResult)
    (atLines : Bool) : Exchange Value :=
  (discussion r number).post a result atLines

/-- The files that a pull request changes. -/
def changedFiles (a : Account) (r : Repository) (number : Text) : Exchange (List Value) := do
  let files ← api.send a "GET" (r.endpoint ++ "/pulls/" ++ number ++ "/files") none
  Course.lift do
    let names ← (← membersOf files).mapM fun f => fieldOf f "filename" .null
    return names.filter Value.holds

/-- How a check shows an issue of a severity given by its name. -/
def annotationLevel (severity : Text) : Text :=
  match Severity.ofText? severity with
  | some .critical | some .high => "failure"
  | some .medium => "warning"
  | _ => "notice"

/-- How many issues a check shows, in one file and in all. -/
def maxAnnotations : Nat := 50

def annotation (i : Issue) : Except Failure Value := do
  let s ← i.severity.severity
  let stop := match i.endLine with
    | some n => if n = 0 then i.line else n
    | none => i.line
  return .object
    [("path".toList, .text i.file), ("start_line".toList, .ofInt i.line),
      ("end_line".toList, .ofInt stop),
      ("annotation_level".toList, .text (annotationLevel s.toText)),
      ("message".toList, .text i.message), ("title".toList, .text i.type)]

def conclusion (result : ReviewResult) : Text :=
  if blocks result then "failure" else "success"

/-- Adds a check with the results of a review to a commit. -/
def createCheck (a : Account) (r : Repository) (commit : Value) (result : ReviewResult)
    (name : Value) : Exchange Value := do
  let annotations ← Course.lift
    ((result.files.flatMap fun f => f.issues.take maxAnnotations).mapM annotation)
  let grade := result.grade.letter
  let about : Text :=
    "Score: " ++ Text.ofInt result.score ++ "/100 (Grade: " ++ grade ++ ")\nTotal issues: "
      ++ Text.ofInt result.totalIssues
  api.send a "POST" (r.endpoint ++ "/check-runs")
    (some (.object
      [("name".toList, name), ("head_sha".toList, commit), ("status".toList, .text "completed"),
        ("conclusion".toList, .text (conclusion result)),
        ("output".toList, .object
          [("title".toList, .text ("Code Review: " ++ grade)), ("summary".toList, .text about),
            ("annotations".toList, .list (annotations.take maxAnnotations))])]))

def standardCheck : Text :=
  "Paila Code Review"

end CodeReview.Forge.GitHub
