import CodeReview.Report.Data
import CodeReview.Report.Markdown
import CodeReview.Report.Page
import CodeReview.Report.Terminal

/-!
The ways to show what a review has found.
-/

namespace CodeReview.Report

inductive Reporter where
  | terminal (o : Terminal)
  | data (o : Data)
  | markdown (o : Markdown)
  | page
  deriving DecidableEq, Repr

namespace Reporter

def name : Reporter → Text
  | terminal _ => "terminal"
  | data _ => "json"
  | markdown _ => "markdown"
  | page => "html"

/-- How a reporter describes itself. -/
def className : Reporter → Text
  | terminal _ => "TerminalReporter"
  | data _ => "JSONReporter"
  | markdown _ => "MarkdownReporter"
  | page => "HTMLReporter"

def describe (r : Reporter) : Text :=
  r.className ++ "()"

/-- The reporter with a name and with some options. -/
def ofFields (name : Text) (options : Entries Value) : Except Failure Reporter := do
  let known (r : Reporter) (names : List Text) : Except Failure Reporter :=
    match options.find? fun o => !names.contains o.1 with
    | some o => .error (.unexpectedPart r.className o.1)
    | none => .ok r
  let flag (name : Text) (default : Bool) : Bool :=
    ((options.get? name).map Value.holds).getD default
  if name = "terminal" then
    known (.terminal { colors := flag "use_colors" true, icons := flag "use_icons" true })
      ["use_colors", "use_icons"]
  else if name = "json" then
    let indent := match options.get? "indent" with
      | some v => v.int?.map Int.toNat
      | none => some 2
    known (.data { indent := indent, origin := flag "include_metadata" true })
      ["indent", "include_metadata"]
  else if name = "markdown" then
    known
      (.markdown { badges := flag "include_badges" true, contents := flag "include_toc" false })
      ["include_badges", "include_toc"]
  else return .page

/-- The ending of files with such reports. -/
def extension : Reporter → Text
  | terminal _ => ".txt"
  | data _ => ".json"
  | markdown _ => ".md"
  | page => ".html"

/-- The report at a moment. -/
def format (r : Reporter) (now : Text) (o : Outcome) : Except Failure Text :=
  match r with
  | terminal t => t.format o
  | data d => d.format now o
  | markdown m => m.format now o
  | page => Page.format now o

end Reporter

end CodeReview.Report
