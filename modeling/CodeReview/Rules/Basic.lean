import CodeReview.Analysis.Complexity
import CodeReview.Pattern.Reader
import CodeReview.Source.Form

/-!
Rules: named checks that can be switched off, and sets of them.

A set keeps its rules in the order in which their names came into it, and has one rule for a name.
-/

namespace CodeReview

open Source

/-- Looks at a source, with its tree if it is known already, and gives issues of a severity. -/
abbrev Checker :=
  Rating → Subject → Option Node → Except Failure (List Issue)

structure Rule where
  id : Text
  name : Text
  description : Text
  severity : Rating
  category : Text
  checker : Checker
  enabled : Bool := true
  config : Entries Value := []
  tags : List Text := []
  /-- The severity of the issues that it finds. -/
  findings : Rating := severity
  /-- The number of the draft that it is made from, while that can still change. -/
  draft : Option Nat := none

namespace Rule

/-- What a rule finds; one that is switched off finds nothing. -/
def check (r : Rule) (s : Subject) (tree : Option Node) : Except Failure (List Issue) :=
  if r.enabled then r.checker r.findings s tree else .ok []

def describe (r : Rule) : Text :=
  "Rule(id='" ++ r.id ++ "', enabled=" ++ (if r.enabled then "True" else "False") ++ ")"

def toValue (r : Rule) : Value :=
  .record
    [("id", .text r.id), ("name", .text r.name), ("description", .text r.description),
      ("severity", .text r.severity.toText), ("category", .text r.category),
      ("enabled", .bool r.enabled), ("config", .object r.config), ("tags", .texts r.tags)]

end Rule

structure RuleSet where
  name : Text := "default"
  rules : List Rule := []

namespace RuleSet

/-- Adds a rule; it takes the place of one with its name. -/
def add (s : RuleSet) (r : Rule) : RuleSet :=
  { s with rules :=
    if s.rules.any fun q => q.id = r.id then s.rules.map fun q => if q.id = r.id then r else q
    else s.rules ++ [r] }

def remove (s : RuleSet) (id : Text) : RuleSet :=
  { s with rules := s.rules.filter fun q => q.id ≠ id }

/-- Switches a rule on or off. -/
def switch (s : RuleSet) (id : Text) (on : Bool) : RuleSet :=
  { s with rules := s.rules.map fun q => if q.id = id then { q with enabled := on } else q }

def enable (s : RuleSet) (id : Text) : RuleSet :=
  s.switch id true

def disable (s : RuleSet) (id : Text) : RuleSet :=
  s.switch id false

def get? (s : RuleSet) (id : Text) : Option Rule :=
  s.rules.find? fun q => q.id = id

def enabledRules (s : RuleSet) : List Rule :=
  s.rules.filter (·.enabled)

def byCategory (s : RuleSet) (category : Text) : List Rule :=
  s.rules.filter fun q => q.category = category

def bySeverity (s : RuleSet) (severity : Rating) : List Rule :=
  s.rules.filter fun q => q.severity = severity

/-- What all rules find, rule by rule. A rule that fails finds nothing. -/
def checkAll (s : RuleSet) (subject : Subject) (tree : Option Node) : List Issue :=
  s.enabledRules.flatMap fun q => ((q.check subject tree).toOption).getD []

def describe (s : RuleSet) : Text :=
  "RuleSet(name='" ++ s.name ++ "', rules=" ++ Text.ofNat s.rules.length ++ ")"

end RuleSet

/-- The issue of one line that a pattern occurs in. -/
def patternIssues (id : Text) (p : Pattern) (message suggestion : Text) (severity : Rating)
    (path : Text) (number : Nat) (line : Text) : List Issue :=
  if p.occursIn line then
    [{ type := id, severity := severity, file := path, line := number, message := message
       code := Text.strip line, suggestion := suggestion, rule := id }]
  else []

/-- A check of every line against a pattern. -/
def lineChecker (id : Text) (p : Pattern) (message suggestion : Text) : Checker :=
  fun severity s _ => .ok (s.scan (patternIssues id p message suggestion severity))

/-- The tree of a source, unless it is known already. -/
def treeFor (s : Subject) (tree : Option Node) : Option Node :=
  tree.or (treeOf s.source)

/-- A check of every part of a tree that has a name and meets a condition. A part without a place
cannot be reported. -/
def partChecker (id form : Text) (condition : Part → Except Failure Bool)
    (message suggestion : Text) : Checker :=
  fun severity s tree =>
    match treeFor s tree with
    | none => .ok []
    | some t => do
      let found ← t.walkParts.mapM fun p => do
        if !p.isA form then return none
        if !(← condition p) then return none
        match p.node?.bind Node.span? with
        | none => throw (.missingMember p.form.name "lineno")
        | some span =>
          return some
            { type := id, severity := severity, file := s.path, line := span.line
              column := span.col, message := message, suggestion := suggestion, rule := id
              : Issue }
      return found.filterMap fun i => i

end CodeReview
