import CodeReview.Report.Basic
import CodeReview.Report.Style

/-!
Reports as pages for a browser. Texts stand in them as they are.
-/

namespace CodeReview.Report.Page

def color : Rating → Text
  | .level .critical => "#dc3545"
  | .level .high => "#fd7e14"
  | .level .medium => "#ffc107"
  | .level .low => "#17a2b8"
  | .level .info | .other _ => "#6c757d"

def badge (color name : Text) : Text :=
  "<span class=\"severity-badge\" style=\"background: " ++ color ++ "\">" ++ name ++ "</span>"

/-- What is wrong and where. -/
def entryHead (level : Severity) (i : Issue) : Text :=
  Text.unlines
    [[], "        <div class=\"issue-card " ++ level.toText ++ "\">",
      "            <div class=\"issue-header\">",
      "                <span class=\"issue-message\">" ++ i.message ++ "</span>",
      "                " ++ badge (color level) (level.toText.map Char.toUpper),
      "            </div>",
      "            <div class=\"issue-location\">",
      "                📍 " ++ i.file ++ ":" ++ Text.ofInt i.line ++ ":" ++ i.column.toText
        ++ " | Rule: <code>" ++ i.rule ++ "</code>",
      "            </div>", []]

/-- A text of an issue that may be missing. -/
def block (kind text : Text) : Text :=
  if text.isEmpty then []
  else Text.unlines [[], "            <div class=\"" ++ kind ++ "\">" ++ text ++ "</div>", []]

/-- What a page says about an issue of a level. -/
def entry (level : Severity) (i : Issue) : Text :=
  entryHead level i ++ block "code-block" i.code ++ block "suggestion" i.suggestion ++ "</div>"

def issue (i : Issue) : Except Failure Text := do
  return entry (← i.severity.severity) i

/-- A page up to its heading. -/
def opening (title heading : Text) : List Text :=
  [[], "<!DOCTYPE html>", "<html lang=\"en\">", "<head>", "    <meta charset=\"UTF-8\">",
    "    <meta name=\"viewport\" content=\"width=device-width, ".toList ++ "initial-scale=1.0\">",
    "    <title>" ++ title ++ "</title>", "    " ++ styles, "</head>", "<body>",
    "    <div class=\"container\">", "        <h1>" ++ heading ++ "</h1>"]

/-- The end of a page. -/
def closing (more : Text) : Text :=
  Text.unlines
    [[], "        <div class=\"footer\">",
      "            Generated by <a href=\"https://github.com/saikrishnapaila/paila\">"
        ++ "Paila SDK</a>" ++ more,
      "        </div>", "    </div>", "</body>", "</html>", []]

/-- A number with a label. -/
def card (kind value label : Text) : List Text :=
  ["            <div class=\"summary-card" ++ kind ++ "\">",
    "                <div class=\"value\">" ++ value ++ "</div>",
    "                <div class=\"label\">" ++ label ++ "</div>", "            </div>"]

/-- Numbers with labels, on lines of their own. -/
def cards (cs : List (List Text)) : Text :=
  Text.sections ([[[]]] ++ cs ++ [[[]]])

/-- The page of a file up to its heading. -/
def fileOpening (file : Text) : Text :=
  Text.unlines (opening ("Code Review - " ++ file) ("📁 Code Review: " ++ file) ++ [[]])

def issueCount (n : Nat) : Text :=
  cards [["        <div class=\"summary-grid\">"], card [] (Text.ofNat n) "Issues Found"]

def fileMetrics : Option Metrics → Text
  | none => []
  | some m =>
    cards [card [] m.linesOfCode.toText "Lines of Code", card [] m.functions.toText "Functions"]

def skippedPage (file : Text) : Text :=
  fileOpening file ++ "<p><em>File was skipped</em></p>" ++ closing []

/-- The page of a file that was looked at, with what it says about each issue. -/
def filePage (r : FileResult) (issues : List Text) : Text :=
  fileOpening r.file ++ issueCount r.issues.length ++ fileMetrics r.metrics ++ "</div>".toList
    ++ (if r.issues.isEmpty then [] else "<h2>Issues</h2>".toList) ++ issues.flatten ++ closing []

def file (r : FileResult) : Except Failure Text := do
  if r.skipped then return skippedPage r.file
  return filePage r (← r.issues.mapM issue)

/-- A row of a table with two columns. -/
def row (cell : Text) (count : Int) : Text :=
  Text.unlines
    [[], "                <tr>", "                    <td>" ++ cell ++ "</td>",
      "                    <td>" ++ Text.ofInt count ++ "</td>", "                </tr>", []]

/-- A table with two columns up to its rows. -/
def tableHead (title first : Text) : Text :=
  Text.unlines
    [[], "        <h2>" ++ title ++ "</h2>", "        <table>", "            <thead>",
      "                <tr>", "                    <th>" ++ first ++ "</th>",
      "                    <th>Count</th>", "                </tr>", "            </thead>",
      "            <tbody>", []]

def tableEnd : Text :=
  Text.unlines [[], "            </tbody>", "        </table>", []]

def table (title first : Text) (rows : List (Text × Int)) : Text :=
  tableHead title first ++ (rows.map fun r => row r.1 r.2).flatten ++ tableEnd

def severities (r : ReviewResult) : Text :=
  if r.bySeverity.isEmpty then []
  else table "Issues by Severity" "Severity" ((levels r).map fun e =>
    (badge (color e.1) (e.1.toText.map Char.toUpper), e.2))

def types (r : ReviewResult) : Text :=
  if r.byType.isEmpty then []
  else table "Issues by Type" "Type" ((byCount r.byType).map fun e =>
    ("<code>" ++ e.1 ++ "</code>", e.2))

/-- A heading for a file, with what is said about its issues. -/
def group (file : Text) (issues : List Text) : Text :=
  "<h3>📁 " ++ file ++ "</h3>" ++ issues.flatten

/-- All issues under headings for their files. -/
def details (r : ReviewResult) : Except Failure Text := do
  if r.issues.isEmpty then return []
  let parts ← (byFile r.issues).mapM fun g => return group g.1 (← g.2.mapM issue)
  return "<h2>Detailed Issues</h2>".toList ++ parts.flatten

def reviewMetrics : Option Metrics → Text
  | none => []
  | some m => cards [card [] m.linesOfCode.toText "Lines of Code"]

/-- The first numbers of a review. -/
def scoreLines (now : Text) (r : ReviewResult) : List Text :=
  ["        <p style=\"color: #7f8c8d;\">Generated on " ++ dayAndTime now ++ "</p>", [],
    "        <div class=\"summary-grid\">"]
    ++ card " score" (Text.ofInt r.score ++ "/100") ("Score (Grade: " ++ r.grade.letter ++ ")")
    ++ card [] (Text.ofNat r.reviewed.length) "Files Analyzed"
    ++ card [] (Text.ofInt r.totalIssues) "Total Issues" ++ [[]]

def reviewOpening (now : Text) (r : ReviewResult) : Text :=
  Text.unlines (opening "Paila Code Review Report" "📋 Paila Code Review Report" ++ scoreLines now r)

def scoreBar (r : ReviewResult) : Text :=
  Text.unlines
    [[], "        </div>", [], "        <h2>Score</h2>", "        <div class=\"score-bar\">",
      "            <div class=\"score-bar-fill\" style=\"width: " ++ Text.ofInt r.score
        ++ "%\"></div>",
      "        </div>", []]

/-- The page of a review with its details. -/
def reviewPage (now : Text) (r : ReviewResult) (details : Text) : Text :=
  reviewOpening now r ++ reviewMetrics r.metrics ++ scoreBar r ++ severities r ++ types r ++ details
    ++ closing " - AI-Powered Code Review"

def review (now : Text) (r : ReviewResult) : Except Failure Text := do
  return reviewPage now r (← details r)

def format (now : Text) : Outcome → Except Failure Text
  | .file r => file r
  | .review r => review now r

end CodeReview.Report.Page
