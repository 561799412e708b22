import CodeReview.Rules.Draft
import CodeReview.Rules.Standard
import CodeReview.SelfCheck.Basic

/-!
The sheet about rules.
-/

namespace CodeReview.SelfCheck

def sampleRule : Rule where
  id := "test/rule"
  name := "Test Rule"
  description := "A test rule"
  severity := .level .medium
  category := "test"
  checker := fun _ _ _ => .ok []

def sampleDraft : Draft where
  id := "custom/my-rule"
  name := "My Custom Rule"
  description := "Detects bad pattern"
  severity := .level .high

/-- The line with the number of rules of a set, and a line for each of them. -/
def listing (title : Text) (s : RuleSet) : List Text :=
  passed (title ++ ": " ++ Text.ofNat s.rules.length ++ " rules")
    :: s.rules.map fun r => item (r.id ++ ": " ++ r.name)

def rules : Sheet := do
  let subject (source : Text) : Subject := { path := "test.py", source := source }
  let count (title : Text) (issues : List Issue) : Text :=
    passed (title ++ ": " ++ Text.ofNat issues.length ++ " issues")
  let checked ← sampleRule.check (subject "some code") none
  let set := RuleSet.add { name := "test-set" } sampleRule
  let custom ← ((← sampleDraft.pattern "bad_pattern" "Found bad pattern" []).tag
    ["test", "custom"]).build
  let matched ← custom.check (subject "x = bad_pattern") none
  let style := Rules.style []
  let query : Text := "query = f\"SELECT * FROM users WHERE id = \x7bid\x7d\""
  let insecure := Rules.security.checkAll (subject query) none
  let untidy := style.checkAll (subject "x = 1   ") none
  return sheet "RULES MODULE"
    [["1. Testing Rule class...",
        passed ("Rule created: " ++ sampleRule.id),
        passed ("Rule name: " ++ sampleRule.name),
        passed ("Rule severity: " ++ sampleRule.severity.toText),
        count "Rule check works" checked],
      ["2. Testing RuleSet...",
        passed ("RuleSet created with " ++ Text.ofNat set.rules.length ++ " rules"),
        count "check_all works" (set.checkAll (subject "some code") none),
        passed "Rule disabled",
        passed "Rule enabled"],
      ["3. Testing RuleBuilder...",
        passed ("Rule built: " ++ custom.id),
        passed ("Rule name: " ++ custom.name),
        passed ("Rule tags: " ++ (Value.texts custom.tags).shown),
        count "Pattern matched" matched],
      ["4. Testing Built-in RuleSets..."],
      List.flatten
        [["   SECURITY RULES:"], listing "SecurityRules" Rules.security,
          [count "Security check" insecure ++ " found"]],
      "   COMPLEXITY RULES:" :: listing "ComplexityRules" (Rules.complexity []),
      List.flatten
        [["   STYLE RULES:"], listing "StyleRules" style,
          [count "Style check" untidy ++ " found"]]]

end CodeReview.SelfCheck
