import CodeReview.Assist.Outlet
import CodeReview.Assist.Vendor
import CodeReview.Settings.Basic
import CodeReview.Settings.Reader
import CodeReview.Text.Blank
import CodeReview.Text.Case

/-!
Assistants: a model of a vendor, with a key to it, that answers messages.
-/

namespace CodeReview.Assist

structure Message where
  role : Text
  content : Text
  deriving DecidableEq, Repr

/-- Whether a message sets the frame of a conversation. -/
def Message.isFrame (m : Message) : Bool :=
  m.role = ("system" : Text)

def Message.toValue (m : Message) : Value :=
  .record [("role", .text m.role), ("content", .text m.content)]

/-- How an answer is wanted. -/
structure Wish where
  maxTokens : Value := .ofNat 1024
  temperature : Value := .number (.real 0.7)
  /-- What the vendor is told beside that. -/
  more : Entries Value := []

def Wish.ofFields (fields : Entries Value) : Wish where
  maxTokens := (fields.get? "max_tokens").getD (.ofNat 1024)
  temperature := (fields.get? "temperature").getD (.number (.real 0.7))
  more := (fields.remove "max_tokens").remove "temperature"

/-- An answer, as the vendor gives it. -/
structure Completion where
  content : Value
  model : Value
  usage : Entries Value
  finishReason : Value

def Completion.toValue (c : Completion) : Value :=
  .record
    [("content", c.content), ("model", c.model), ("usage", .object c.usage),
      ("finish_reason", c.finishReason)]

/-! ## Parts of answers -/

/-- A part of an answer. -/
def partOf (v : Value) (name : Text) : Except Failure Value :=
  match v with
  | .object fields =>
    match Entries.get? fields name with
    | some p => .ok p
    | none => .error (.missingMember "types.SimpleNamespace" name)
  | v => .error (.missingMember v.kind name)

def firstOf (v : Value) : Except Failure Value :=
  match v with
  | .list (p :: _) => .ok p
  | .list [] => .error .beyondList
  | .text (c :: _) => .ok (.text [c])
  | v => .error (.notSubscriptable v.kind)

/-- A part of a part, and so on. -/
def partAt (v : Value) (names : List Text) : Except Failure Value :=
  names.foldlM partOf v

/-! ## Assistants -/

structure Assistant where
  vendor : Vendor
  key : Value
  model : Value
  organization : Value := .null
  options : Entries Value := []

namespace Assistant

/-- An assistant with the parts that are given. A key may also come from the environment. -/
def ofFields (env : Environment) (name : Text) (fields : Entries Value) :
    Except Failure Assistant := do
  let some vendor := Vendor.ofName? name | throw (.unknownVendor name)
  let given := (fields.get? "api_key").getD .null
  let key := if given.holds then given else .ofOption .text (env.get? vendor.keyName)
  if !key.holds then throw (.noKey (some vendor.title) vendor.keyName)
  let model := (fields.get? "model").getD .null
  let rest := (fields.remove "api_key").remove "model"
  return {
    vendor := vendor
    key := key
    model := if model.holds then model else .text vendor.standardModel
    organization := if vendor = .openai then (fields.get? "organization").getD .null else .null
    options := if vendor = .openai then rest.remove "organization" else rest }

def className (a : Assistant) : Text :=
  a.vendor.title ++ "Provider"

def describe (a : Assistant) : Text :=
  a.className ++ "(model='" ++ a.model.inText ++ "')"

/-- Makes the client of the vendor, unless there is one. -/
def connect (a : Assistant) : Dialogue Value Unit :=
  Outlet.connect a.vendor.name a.vendor.title
    (if a.organization.holds then
      [("api_key".toList, a.key), ("organization".toList, a.organization)]
    else [("api_key".toList, a.key)])

def putAll (fields more : Entries Value) : Entries Value :=
  more.foldl (fun fs f => Entries.put fs f.1 f.2) fields

def isUsual (temperature : Value) : Bool :=
  match temperature with
  | .number (.real x) => x == 0.7
  | _ => false

/-- The last message that sets the frame, if it says something. -/
def frame? (messages : List Message) : Option Text :=
  match (messages.filter Message.isFrame).getLast? with
  | some m => if m.content.isEmpty then none else some m.content
  | none => none

/-- What the vendor is sent. Anthropic takes the frame apart from the conversation, and a
temperature only where it is unusual. -/
def request (a : Assistant) (messages : List Message) (w : Wish) : Entries Value :=
  match a.vendor with
  | .anthropic =>
    let spoken := messages.filter fun m => !m.isFrame
    let framing : Entries Value := match frame? messages with
      | some t => [("system".toList, .text t)]
      | none => []
    let heat : Entries Value :=
      if isUsual w.temperature then [] else [("temperature".toList, w.temperature)]
    putAll
      ([("model".toList, a.model), ("max_tokens".toList, w.maxTokens),
        ("messages".toList, .list (spoken.map Message.toValue))] ++ framing ++ heat)
      w.more
  | _ =>
    putAll
      [("model".toList, a.model), ("messages".toList, .list (messages.map Message.toValue)),
        ("max_tokens".toList, w.maxTokens), ("temperature".toList, w.temperature)]
      w.more

/-- A value, or another one where it says nothing. -/
def orElse (v other : Value) : Value :=
  if v.holds then v else other

def usage (input output : Value) : Entries Value :=
  [("input_tokens".toList, input), ("output_tokens".toList, output)]

def readAnthropic (answer : Value) : Except Failure Completion := do
  let parts ← partOf answer "content"
  let content ← if parts.holds then partOf (← firstOf parts) "text" else pure (.text [])
  let model ← partOf answer "model"
  let input ← partAt answer ["usage", "input_tokens"]
  let output ← partAt answer ["usage", "output_tokens"]
  return {
    content := content
    model := model
    usage := usage input output
    finishReason := orElse (← partOf answer "stop_reason") (.text "stop") }

def readChoices (answer : Value) : Except Failure Completion := do
  let choices ← partOf answer "choices"
  let content ←
    if choices.holds then
      pure (orElse (← partAt (← firstOf choices) ["message", "content"]) (.text []))
    else pure (.text [])
  let model ← partOf answer "model"
  let used ← partOf answer "usage"
  let count (name : Text) : Except Failure Value :=
    if used.holds then partOf used name else .ok (.ofNat 0)
  let input ← count "prompt_tokens"
  let output ← count "completion_tokens"
  return {
    content := content
    model := model
    usage := usage input output
    finishReason := ← if choices.holds then partOf (← firstOf choices) "finish_reason"
      else pure (.text "stop") }

/-- Answers some messages. -/
def complete (a : Assistant) (messages : List Message) (w : Wish) : Dialogue Value Completion := do
  a.connect
  let answer ← Outlet.ask (.object (a.request messages w))
  Course.lift (match a.vendor with
    | .anthropic => readAnthropic answer
    | _ => readChoices answer)

/-- What only some vendors offer. -/
def offered (a : Assistant) (vendors : List Vendor) (name : Text) : Dialogue Value Unit :=
  if vendors.contains a.vendor then pure () else throw (.missingMember a.className name)

/-- Answers some messages piece by piece. -/
def stream (a : Assistant) (messages : List Message) (w : Wish) :
    Dialogue Value (List Value) := do
  a.offered [.groq] "stream_complete"
  a.connect
  let flowing := { w with more := putAll [("stream".toList, .bool true)] w.more }
  let answer ← Outlet.ask (.object (a.request messages flowing))
  Course.lift do
    let chunks ← (Setting.other answer).members
    let pieces ← chunks.mapM fun chunk => do
      let choices ← partOf chunk "choices"
      if choices.holds then partAt (← firstOf choices) ["delta", "content"] else pure .null
    return pieces.filter Value.holds

/-- The models that the vendor names when it is asked, or else those that are known. -/
def availableModels (a : Assistant) : Dialogue Value (List Value) := do
  a.offered [.openai, .groq] "get_available_models"
  let asked ← Course.attempt do
    a.connect
    let answer ← Outlet.ask (.object [])
    Course.lift do
      let ids ← (← (Setting.other (← partOf answer "data")).members).mapM fun m => partOf m "id"
      if a.vendor = .openai then
        ids.filterM fun v => match v with
          | .text t => .ok (Text.contains (Text.lower t) "gpt")
          | v => .error (.missingMember v.kind "lower")
      else pure ids
  match asked with
  | .ok ids => return ids
  | .error _ => return a.vendor.models.map .text

/-- The vector that stands for a text. -/
def embed (a : Assistant) (text : Text) (model : Value) : Dialogue Value Value := do
  a.offered [.openai] "create_embedding"
  a.connect
  let answer ← Outlet.ask (.record [("model", model), ("input", .text text)])
  Course.lift do partOf (← firstOf (← partOf answer "data")) "embedding"

/-- The model that makes vectors where none is told. -/
def standardEmbedding : Text :=
  "text-embedding-3-small"

/-- How many tokens a text has: by the tokenizer of the model where there is one, and about one for
four characters else. -/
def countTokens (tokenizer : Option (Text → Nat)) (text : Text) : Nat :=
  match tokenizer with
  | some count => count text
  | none => text.length / 4

/-- What some tokens cost. -/
def cost (a : Assistant) (input output : Number) : Float :=
  (a.vendor.price a.model.inText).of input output

end Assistant

/-- A question, perhaps with a frame, to anything that answers messages. -/
def conversation (prompt : Text) (frame : Option Text) : List Message :=
  match frame with
  | some (c :: t) =>
    [{ role := "system", content := c :: t }, { role := "user", content := prompt }]
  | _ => [{ role := "user", content := prompt }]

end CodeReview.Assist
