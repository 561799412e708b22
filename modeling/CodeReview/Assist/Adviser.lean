import CodeReview.Assist.Outlet
import CodeReview.Assist.Prompt
import CodeReview.Settings.Reader
import CodeReview.Text.Blank

/-!
Advice on the issues of a review: why they are issues, and how to fix them.
-/

namespace CodeReview.Assist

structure Adviser where
  provider : Text
  model : Value
  key : Value

/-- Why an issue is one. -/
structure Explanation where
  text : Text
  impact : Text
  priority : Text
  deriving DecidableEq, Repr

def Explanation.toValue (e : Explanation) : Value :=
  .record
    [("explanation", .text e.text), ("impact", .text e.impact), ("priority", .text e.priority)]

/-- The code without an issue. -/
structure Fix where
  code : Text
  explanation : Text
  deriving DecidableEq, Repr

def Fix.toValue (f : Fix) : Value :=
  .record [("fixed_code", .text f.code), ("explanation", .text f.explanation)]

namespace Fix

/-- The first block of code in a text, without the name of its language if that is Python. -/
def fencedIn (t : Text) : Text :=
  match Text.find? t Prompt.fence with
  | none => []
  | some start =>
    match Text.findFrom? t Prompt.fence (start + 3) with
    | none => []
    | some stop =>
      let block := (t.drop start).take (stop + 3 - start)
      if Text.startsWith block "```python" then Prompt.fence ++ block.drop 9 else block

/-- Reads a fix in the form that is asked for. An answer in another form is an explanation. -/
def read (answer : Text) : Fix :=
  match Text.split answer Prompt.codeMark with
  | _ :: part :: _ =>
    { code := fencedIn part
      explanation :=
        if Text.contains part Prompt.reasonMark then
          Text.strip (((Text.split part Prompt.reasonMark).getLast?).getD [])
        else answer }
  | _ => { code := [], explanation := answer }

end Fix

/-- An issue with what was said about it. -/
structure Advised where
  issue : Issue
  said : Except Text (Explanation × Fix)

namespace Advised

def toValue (a : Advised) : Value :=
  match a.said with
  | .ok (e, f) =>
    .record
      [("issue", a.issue.toValue), ("ai_explanation", .text e.text), ("ai_impact", .text e.impact),
        ("ai_fix", .text f.code), ("ai_fix_explanation", .text f.explanation)]
  | .error message => .record [("issue", a.issue.toValue), ("ai_error", .text message)]

def succeeded (a : Advised) : Bool :=
  match a.said with
  | .ok _ => true
  | .error _ => false

end Advised

/-- The advice on the issues of a file. -/
structure Advice where
  result : FileResult
  issues : List Advised

def Advice.toValue (a : Advice) : Value :=
  .record
    [("file", .text a.result.file), ("metrics", .ofOption Metrics.toValue a.result.metrics),
      ("enhanced_issues", .list (a.issues.map Advised.toValue)),
      ("total_issues", .ofNat a.result.issues.length),
      ("enhanced_count", .ofNat (a.issues.countP Advised.succeeded))]

namespace Adviser

def standardModel : Text :=
  "claude-sonnet-4-20250514"

/-- Whether questions go to Anthropic. All other names stand for OpenAI. -/
def usesAnthropic (provider : Text) : Bool :=
  provider = ("anthropic" : Text)

/-- An adviser with the parts that are given. A key may also come from the environment. -/
def ofFields (env : Environment) (fields : Entries Value) : Except Failure Adviser := do
  let known : List Text := ["api_key", "model", "provider"]
  match fields.find? fun f => !known.contains f.1 with
  | some f => throw (.unexpectedPart "AIEnhancer" f.1)
  | none => pure ()
  let provider := ((fields.get? "provider").getD (.text "anthropic")).inText
  let given := (fields.get? "api_key").getD .null
  let name : Text := if usesAnthropic provider then "ANTHROPIC_API_KEY" else "OPENAI_API_KEY"
  let key := if given.holds then given else .ofOption .text (env.get? name)
  if !key.holds then throw (.noKey none (Text.upper provider ++ "_API_KEY"))
  return {
    provider := provider
    model := (fields.get? "model").getD (.text standardModel)
    key := key }

/-- The package of the vendor, and the client in it. -/
def client (a : Adviser) : Text × Text :=
  if usesAnthropic a.provider then ("anthropic", "Anthropic") else ("openai", "OpenAI")

/-- What the vendor is sent. -/
def question (a : Adviser) (prompt : Text) (maxTokens : Nat) : Value :=
  .record
    [("model", a.model), ("max_tokens", .ofNat maxTokens),
      ("messages", .list [.record [("role", .text "user"), ("content", .text prompt)]])]

/-- Asks a question and gives the text of the answer. -/
def ask (a : Adviser) (prompt : Text) (maxTokens : Nat) : Dialogue Text Text := do
  Outlet.connect a.client.1 a.client.2 [("api_key".toList, a.key)]
  Outlet.ask (a.question prompt maxTokens)

/-- How long an answer may be, and how long a whole review. -/
def answerTokens : Nat := 1024

def reviewTokens : Nat := 2048

def explain (a : Adviser) (i : Issue) (context : Text) : Dialogue Text Explanation := do
  let s ← Course.lift i.severity.severity
  let answer ← a.ask (Prompt.explain i s context) answerTokens
  return { text := answer, impact := Prompt.impact s, priority := s.toText }

def fix (a : Adviser) (i : Issue) (context : Text) : Dialogue Text Fix := do
  let s ← Course.lift i.severity.severity
  let answer ← a.ask (Prompt.fix i s context) answerTokens
  return Fix.read answer

/-- An explanation and, after it, a fix. -/
def advise (a : Adviser) (i : Issue) (context : Text) : Dialogue Text Advised := do
  let e ← a.explain i context
  let f ← a.fix i context
  return { issue := i, said := .ok (e, f) }

/-- Advice on an issue; what goes wrong is part of the advice. -/
def tryAdvise (a : Adviser) (i : Issue) : Dialogue Text Advised := do
  match ← Course.attempt (a.advise i []) with
  | .ok advised => return advised
  | .error f => return { issue := i, said := .error f.message }

/-- Advice on the worst issues of a file. A negative number leaves out that many issues at the
end. -/
def adviseFile (a : Adviser) (r : FileResult) (most : Int) : Dialogue Text Advice := do
  let _ ← Course.lift (r.issues.mapM fun i => i.severity.severity)
  let issues := Text.slice (bySeverity r.issues) 0 most
  return { result := r, issues := ← issues.mapM a.tryAdvise }

def standardMost : Int := 10

def summarize (a : Adviser) (r : ReviewResult) : Dialogue Text Text := do
  let prompt ← Course.lift (Prompt.summarize r)
  a.ask prompt answerTokens

def review (a : Adviser) (source path : Text) : Dialogue Text Text :=
  a.ask (Prompt.review source path) reviewTokens

end Adviser

end CodeReview.Assist
