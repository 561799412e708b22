import CodeReview.Issue
import CodeReview.Result
import CodeReview.Text.Case

/-!
What an assistant is asked about a review.
-/

namespace CodeReview.Assist.Prompt

/-- A text, or another one where it is empty. -/
def orElse (t other : Text) : Text :=
  if t.isEmpty then other else t

/-- The lines that tell an issue. -/
def facts (i : Issue) (s : Severity) : List Text :=
  ["Issue Type: " ++ i.type, "Severity: " ++ s.toText, "Message: " ++ i.message,
    "Rule: " ++ orElse i.rule "N/A"]

/-- Asks why an issue is one. `context` is shown where the issue has no code. -/
def explain (i : Issue) (s : Severity) (context : Text) : Text :=
  Text.sections
    [["You are a code review expert. Explain the following issue found in Python code.", []],
      facts i s,
      [[],
        "Code Context:",
        "```python",
        orElse i.code context,
        "```",
        [],
        "File: " ++ i.file ++ ":" ++ Text.ofInt i.line,
        [],
        "Please provide:",
        "1. A clear explanation of why this is a problem (2-3 sentences)",
        "2. The potential impact or risk",
        "3. Why this matters for code quality",
        [],
        "Keep your response concise and developer-friendly."]]

/-- The word before the corrected code in an answer. -/
def codeMark : Text :=
  "FIXED CODE:"

/-- The word before the explanation of a fix. -/
def reasonMark : Text :=
  "EXPLANATION:"

/-- The line around code. -/
def fence : Text :=
  "```"

/-- The lines of an answer that tells a fix. -/
def fixLines (code reason : Text) : List Text :=
  [codeMark, "```python", code, fence, [], reasonMark, reason]

/-- Asks for a fix of an issue. -/
def fix (i : Issue) (s : Severity) (context : Text) : Text :=
  Text.sections
    [["You are a code review expert. Suggest a fix for the following issue.", []],
      facts i s,
      [[],
        "Original Code:",
        "```python",
        orElse i.code context,
        "```",
        [],
        "Current Suggestion: " ++ orElse i.suggestion "No suggestion provided",
        [],
        "Please provide:",
        "1. The corrected code that fixes this issue",
        "2. A brief explanation of the changes made (1-2 sentences)",
        [],
        "Format your response as:"],
      fixLines "<your corrected code here>" "<your brief explanation>"]

/-- Asks for a review of a source. -/
def review (source path : Text) : Text :=
  Text.unlines
    ["You are an expert code reviewer analyzing Python code.",
      "Review the following code and identify any issues.",
      [],
      "```python",
      source,
      "```",
      [],
      "File: " ++ path,
      [],
      "Focus on:",
      "1. Security vulnerabilities",
      "2. Code complexity issues",
      "3. Code smells and anti-patterns",
      "4. Potential bugs",
      "5. Performance issues",
      [],
      "For each issue found, provide:",
      "- Type of issue",
      "- Severity (critical/high/medium/low/info)",
      "- Line number",
      "- Description",
      "- Suggested fix",
      [],
      "Be thorough but avoid false positives."]

/-- Lines, or a word that there are none. -/
def listed (lines : List Text) : Text :=
  if lines.isEmpty then "None" else Text.unlines lines

/-- The counts of issues by severity, from the worst on. -/
def severityLines (r : ReviewResult) : List Text :=
  Severity.all.filterMap fun s =>
    if 0 < r.countOf s then
      some ("- " ++ Text.upper s.toText ++ ": " ++ Text.ofInt (r.countOf s) : Text)
    else none

/-- How many types and how many issues a summary is told about. -/
def shown : Nat := 5

/-- The most frequent types of issues. -/
def typeLines (r : ReviewResult) : List Text :=
  ((r.byType.mergeSort fun a b => b.2 ≤ a.2).take shown).map fun t =>
    "- " ++ t.1 ++ ": " ++ Text.ofInt t.2

/-- An issue in one line. -/
def issueLine (i : Issue) : Text :=
  "- [" ++ Text.upper i.severity.toText ++ "] " ++ i.message ++ " (" ++ i.file ++ ":"
    ++ Text.ofInt i.line ++ ")"

/-- The worst issues. All issues have to have a severity that is known. -/
def issueLines (r : ReviewResult) : Except Failure (List Text) := do
  let _ ← r.issues.mapM fun i => i.severity.severity
  return ((bySeverity r.issues).take shown).map issueLine

/-- What a summary is told about a review beside its worst issues. -/
def numbers (r : ReviewResult) : List Text :=
  ["You are a code review expert. Summarize the following code review results.",
    [],
    "Files Analyzed: " ++ Text.ofNat r.reviewed.length,
    "Total Issues: " ++ Text.ofInt r.totalIssues,
    [],
    "Issues by Severity:",
    listed (severityLines r),
    [],
    "Issues by Type:",
    listed (typeLines r),
    []]

/-- What a summary should be like. -/
def wishes : List Text :=
  [[],
    "Provide a brief executive summary (3-5 sentences) that:",
    "1. Highlights the most critical findings",
    "2. Identifies patterns or recurring issues",
    "3. Suggests prioritization for fixes",
    "4. Gives an overall assessment of code quality",
    [],
    "Keep the tone professional and constructive."]

/-- Asks for a summary of a review. -/
def summarize (r : ReviewResult) : Except Failure Text := do
  return Text.sections [numbers r, ["Top Issues:", listed (← issueLines r)], wishes]

/-- What a severity means for the work at hand. -/
def impact : Severity → Text
  | .critical =>
    ("This is a CRITICAL issue that could lead to security vulnerabilities, data loss, or system "
      ++ "crashes. Fix immediately." : String)
  | .high =>
    ("This is a HIGH severity issue that significantly impacts code quality or could cause bugs. "
      ++ "Fix as soon as possible." : String)
  | .medium =>
    ("This is a MEDIUM severity issue that affects maintainability or best practices. Plan to fix "
      ++ "soon." : String)
  | .low =>
    ("This is a LOW severity issue related to style or minor improvements. Fix when convenient."
      : String)
  | .info => "This is an informational note. Consider addressing but not critical."

end CodeReview.Assist.Prompt
