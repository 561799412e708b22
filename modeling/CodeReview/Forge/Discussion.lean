import CodeReview.Forge.Comment
import CodeReview.Forge.Web

/-!
Reviews where changes are discussed. There is a comment about the whole, and then one at the line of
each serious issue, placed by the commits that are known of the changes.
-/

namespace CodeReview.Forge

/-- A place where changes are discussed. -/
structure Discussion where
  api : Api
  /-- Where a comment about the whole is posted. -/
  summaries : Text
  /-- Where the changes are told about. -/
  info : Text
  /-- Where a comment at a line is posted. -/
  remarks : Text
  /-- The name for what is answered to the comments at lines. -/
  remarksName : Text
  /-- The field of what is told that names commits, and the names of those that are needed. -/
  refs : Text
  commits : List Text
  /-- Where an issue lies, by the commits. -/
  position : (Text → Value) → Issue → Entries Value

/-- What is told about a comment that was posted or not accepted. -/
def told (i : Issue) : Except Failure Value → Value
  | .ok v => v
  | .error f => .object [("error".toList, .text f.message), ("issue".toList, .text i.message)]

/-- The commit with a name, if there is one. -/
def named (fields : Entries Value) (name : Text) : Value :=
  (Entries.get? fields name).getD .null

namespace Discussion

variable (d : Discussion) (a : Account)

/-- The commits that are named in what is told about changes. -/
def commitsIn (info : Value) : Except Failure (Text → Value) := do
  match ← fieldOf info d.refs (.object []) with
  | .object fields => return named fields
  | refs => throw (.missingMember refs.kind "get")

def hasCommits (commit : Text → Value) : Bool :=
  d.commits.all fun name => (commit name).holds

/-- What is posted at the line of an issue. -/
def remark (commit : Text → Value) (i : Issue) (body : Text) : Value :=
  .object (("body".toList, .text body) :: d.position commit i)

/-- Comments on one issue. A comment that is not accepted is told as such. -/
def postIssue (commit : Text → Value) (i : Issue) : Exchange Value := do
  let posted ← Course.attempt do
    let body ← Course.lift (inlineComment i)
    d.api.send a "POST" d.remarks (some (d.remark commit i body))
  return told i posted

/-- Comments on the serious issues, if the commits are known. -/
def postIssues (result : ReviewResult) (commit : Text → Value) : Exchange (List Value) := do
  if !d.hasCommits commit then return []
  let issues ← Course.lift (serious result)
  (issues.take maxInline).mapM (d.postIssue a commit)

/-- Asks for the commits and comments on the serious issues. -/
def postRemarks (result : ReviewResult) : Exchange (List Value) := do
  let info ← d.api.send a "GET" d.info none
  let commit ← Course.lift (d.commitsIn info)
  d.postIssues a result commit

/-- What is posted about the whole. -/
def whole (body : Text) : Value :=
  .object [("body".toList, .text body)]

/-- Tells a review to the people who discuss the changes. -/
def post (result : ReviewResult) (atLines : Bool) : Exchange Value := do
  let body ← Course.lift (summary result true)
  let posted ← d.api.send a "POST" d.summaries (some (whole body))
  if atLines then
    let remarks ← d.postRemarks a result
    return .object [("summary_comment".toList, posted), (d.remarksName, .list remarks)]
  else return .object [("summary_comment".toList, posted)]

end Discussion

end CodeReview.Forge
