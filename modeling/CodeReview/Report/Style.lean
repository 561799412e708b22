import CodeReview.Text.Basic

/-!
The style sheet of pages.
-/

namespace CodeReview.Report

/-- What a style sheet says about some elements, on one line or on several. -/
structure StyleRule where
  selector : String
  short : Bool
  declarations : List String

namespace StyleRule

def lines (r : StyleRule) : List Text :=
  let margin : Text := "            "
  let declared := r.declarations.map fun d => d.toList ++ [';']
  if r.short then
    [margin ++ r.selector ++ " \x7b " ++ Text.join " " declared ++ " \x7d"]
  else
    [margin ++ r.selector ++ " \x7b"] ++ (declared.map fun d => margin ++ "    " ++ d)
      ++ [margin ++ "\x7d"]

end StyleRule

def styleRules : List StyleRule :=
  [
    ⟨"*", true, ["box-sizing: border-box", "margin: 0", "padding: 0"]⟩,
    ⟨"body", false,
      ["font-family: -apple-system, BlinkMacSystemFont, 'Segoe UI', Roboto, sans-serif",
        "line-height: 1.6", "color: #333", "background: #f5f5f5", "padding: 20px"]⟩,
    ⟨".container", false,
      ["max-width: 1200px", "margin: 0 auto", "background: white", "border-radius: 8px",
        "box-shadow: 0 2px 10px rgba(0,0,0,0.1)", "padding: 30px"]⟩,
    ⟨"h1", false,
      ["color: #2c3e50", "border-bottom: 3px solid #3498db", "padding-bottom: 15px",
        "margin-bottom: 25px"]⟩,
    ⟨"h2", false, ["color: #34495e", "margin: 25px 0 15px", "font-size: 1.4em"]⟩,
    ⟨"h3", false, ["color: #7f8c8d", "font-size: 1.1em", "margin: 15px 0 10px"]⟩,
    ⟨".summary-grid", false,
      ["display: grid", "grid-template-columns: repeat(auto-fit, minmax(200px, 1fr))",
        "gap: 20px", "margin: 20px 0"]⟩,
    ⟨".summary-card", false,
      ["background: linear-gradient(135deg, #667eea 0%, #764ba2 100%)", "color: white",
        "padding: 20px", "border-radius: 8px", "text-align: center"]⟩,
    ⟨".summary-card.score", false,
      ["background: linear-gradient(135deg, #11998e 0%, #38ef7d 100%)"]⟩,
    ⟨".summary-card .value", false, ["font-size: 2.5em", "font-weight: bold"]⟩,
    ⟨".summary-card .label", false, ["opacity: 0.9", "font-size: 0.9em"]⟩,
    ⟨".score-bar", false,
      ["height: 20px", "background: #e9ecef", "border-radius: 10px", "overflow: hidden",
        "margin: 10px 0"]⟩,
    ⟨".score-bar-fill", false,
      ["height: 100%", "background: linear-gradient(90deg, #11998e, #38ef7d)",
        "transition: width 0.5s ease"]⟩,
    ⟨"table", false, ["width: 100%", "border-collapse: collapse", "margin: 15px 0"]⟩,
    ⟨"th, td", false, ["padding: 12px", "text-align: left", "border-bottom: 1px solid #e9ecef"]⟩,
    ⟨"th", false, ["background: #f8f9fa", "font-weight: 600"]⟩,
    ⟨"tr:hover", false, ["background: #f8f9fa"]⟩,
    ⟨".severity-badge", false,
      ["display: inline-block", "padding: 4px 12px", "border-radius: 20px", "color: white",
        "font-size: 0.85em", "font-weight: 500"]⟩,
    ⟨".issue-card", false,
      ["background: #f8f9fa", "border-left: 4px solid #ddd", "padding: 15px", "margin: 15px 0",
        "border-radius: 0 8px 8px 0"]⟩,
    ⟨".issue-card.critical", true, ["border-left-color: #dc3545"]⟩,
    ⟨".issue-card.high", true, ["border-left-color: #fd7e14"]⟩,
    ⟨".issue-card.medium", true, ["border-left-color: #ffc107"]⟩,
    ⟨".issue-card.low", true, ["border-left-color: #17a2b8"]⟩,
    ⟨".issue-card.info", true, ["border-left-color: #6c757d"]⟩,
    ⟨".issue-header", false,
      ["display: flex", "justify-content: space-between", "align-items: center",
        "margin-bottom: 10px"]⟩,
    ⟨".issue-message", false, ["font-weight: 500", "color: #2c3e50"]⟩,
    ⟨".issue-location", false, ["color: #7f8c8d", "font-size: 0.9em"]⟩,
    ⟨".code-block", false,
      ["background: #2d2d2d", "color: #f8f8f2", "padding: 15px", "border-radius: 6px",
        "overflow-x: auto", "font-family: 'Monaco', 'Menlo', monospace", "font-size: 0.9em",
        "margin: 10px 0"]⟩,
    ⟨".suggestion", false,
      ["background: #e8f5e9", "border-left: 4px solid #4caf50", "padding: 12px", "margin: 10px 0",
        "border-radius: 0 6px 6px 0"]⟩,
    ⟨".suggestion::before", false, ["content: '💡 '"]⟩,
    ⟨".footer", false,
      ["text-align: center", "padding: 20px", "color: #7f8c8d", "border-top: 1px solid #e9ecef",
        "margin-top: 30px"]⟩,
    ⟨".footer a", false, ["color: #3498db", "text-decoration: none"]⟩]

/-- The style sheet as an element of a page. -/
def styles : Text :=
  Text.sections
    [[[], "        <style>"], styleRules.flatMap StyleRule.lines, ["        </style>", "        "]]

end CodeReview.Report
