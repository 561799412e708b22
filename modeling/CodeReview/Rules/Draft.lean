import CodeReview.Rules.Basic

/-!
Drafts of rules, and a workshop in which rules are made from them.

A rule keeps its tie to the draft that it is made from: when the draft gets another configuration,
other tags or another severity, so does the rule, where the severity is the one of its findings.
-/

namespace CodeReview

open Source

structure Draft where
  id : Text
  name : Text := id
  description : Text := []
  severity : Rating := .level .low
  category : Text := "custom"
  checker : Option Checker := none
  enabled : Bool := true
  config : Entries Value := []
  tags : List Text := []

namespace Draft

/-- A check of every line against a pattern that is given in writing. -/
def pattern (d : Draft) (pattern message suggestion : Text) : Except Failure Draft :=
  match Pattern.read pattern with
  | .ok p => .ok { d with checker := some (lineChecker d.id p message suggestion) }
  | .error .tooManyTimes => .error .repetitionTooLarge
  | .error .incompatibleFlags => .error .incompatibleFlags
  | .error f => .error (.badPattern (f.message pattern))

/-- A check of the parts of a tree. -/
def parts (d : Draft) (form : Text) (condition : Part → Except Failure Bool)
    (message suggestion : Text) : Draft :=
  { d with checker := some (partChecker d.id form condition message suggestion) }

/-- Adds to the configuration; a name that is there gets another value. -/
def configure (d : Draft) (more : Entries Value) : Draft :=
  { d with config := more.foldl (fun c e => c.put e.1 e.2) d.config }

def tag (d : Draft) (more : List Text) : Draft :=
  { d with tags := d.tags ++ more }

/-- The rule that a draft describes. -/
def build (d : Draft) : Except Failure Rule :=
  match d.checker with
  | none => .error .noChecker
  | some checker =>
    .ok { id := d.id, name := d.name, description := d.description, severity := d.severity
          category := d.category, checker := checker, enabled := d.enabled, config := d.config
          tags := d.tags }

end Draft

structure Workshop where
  set : RuleSet
  drafts : List Draft := []

namespace Workshop

/-- A new draft; its number is the number of drafts before. -/
def start (w : Workshop) (id : Text) : Workshop :=
  { w with drafts := w.drafts ++ [{ id := id }] }

/-- Changes a draft and what the rules that are tied to it share with it. -/
def revise (w : Workshop) (number : Nat) (d : Draft) : Workshop :=
  let follow (r : Rule) : Rule :=
    if r.draft = some number then
      { r with config := d.config, tags := d.tags, findings := d.severity }
    else r
  { drafts := w.drafts.set number d, set := { w.set with rules := w.set.rules.map follow } }

/-- Adds the rule that a draft describes. -/
def add (w : Workshop) (number : Nat) : Except Failure Workshop :=
  match w.drafts[number]? with
  | none => .ok w
  | some d => do
    let r ← d.build
    return { w with set := w.set.add { r with draft := some number } }

end Workshop

end CodeReview
