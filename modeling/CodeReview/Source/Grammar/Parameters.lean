import CodeReview.Source.Grammar.Goal

/-!
Parameter lists of functions and of lambda expressions.

The list is read as a sequence of items first. Which sequences are lists of parameters is said
apart: no parameter without a default may follow one with a default before the star, a slash has
something before it, a bare star something after it, and nothing follows the double star.
-/

namespace CodeReview.Source.Grammar

open CodeReview.Source.Parser

/-- An item of a parameter list, with its first token where a fault may be reported for it. -/
inductive ParameterItem where
  | plain (param : Node) (default : Option Node)
  | slash (mark : Token)
  | star (mark : Token)
  | rest (mark : Token) (param : Node)
  | keywordRest (mark : Token) (param : Node)

/-- One parameter, with a hint if it may have one. `starred` allows a hint that
unpacks a list of types. -/
def parameter (g : Grammar) (annotated starred : Bool) : Parser Node := do
  let start ← peek
  let name ← identifier
  let hint ←
    if annotated then
      if ← accept ":" then
        let t ← peek
        if starred && t.isWord "*" then
          let _ ← next
          let value ← g .bitwiseOr
          pure (some (Node.starred (← spanFrom t) value .load))
        else some <$> g .expression
      else pure none
    else pure none
  return .parameter (← spanFrom start) name hint

/-- The token that ends a parameter list. -/
def parameterEnd (annotated : Bool) : Text :=
  if annotated then ")" else ":"

def parameterItem (g : Grammar) (annotated : Bool) : Parser ParameterItem := do
  let t ← peek
  if t.isWord "/" then
    let _ ← next
    return .slash t
  else if t.isWord "**" then
    let _ ← next
    let p ← parameter g annotated false
    whenDiagnosing do
      if ← sees "=" then raiseAt (← peek).line (.starDefault true)
    return .keywordRest t p
  else if t.isWord "*" then
    let _ ← next
    if (← peek).isName then
      let p ← parameter g annotated true
      whenDiagnosing do
        if ← sees "=" then raiseAt (← peek).line (.starDefault false)
      return .rest t p
    else return .star t
  else
    let p ← parameter g annotated false
    let d ← if ← accept "=" then some <$> g .expression else pure none
    return .plain p d

/-- Each item is followed by a comma or by the end of the list. -/
def delimitedItem (g : Grammar) (annotated : Bool) : Parser ParameterItem := do
  let item ← parameterItem g annotated
  if ← accept "," then return item
  else if ← sees (parameterEnd annotated) then return item
  else fail

/-- The parts of a parameter list, gathered from left to right. -/
structure ParameterParts where
  positional : List Node := []
  regular : List Node := []
  rest : Option Node := none
  keywordOnly : List Node := []
  keywordDefaults : List (Option Node) := []
  keywordRest : Option Node := none
  defaults : List Node := []
  /-- A star was passed, bare or not. -/
  starred : Bool := false
  /-- A bare star was passed and no parameter since. -/
  bare : Option Token := none

def ParameterParts.toNode (p : ParameterParts) : Node :=
  .parameters p.positional p.regular p.rest p.keywordOnly p.keywordDefaults p.keywordRest p.defaults

/-- Adds an item, or says why it cannot stand there and at which line. -/
def ParameterParts.add (p : ParameterParts) (item : ParameterItem) :
    Except (Nat × Fault) ParameterParts :=
  match item with
  | .plain param default =>
    if p.keywordRest.isSome then .error (param.line, .afterDoubleStar)
    else if p.starred then
      .ok { p with
        keywordOnly := p.keywordOnly ++ [param]
        keywordDefaults := p.keywordDefaults ++ [default]
        bare := none }
    else match default with
      | some d => .ok { p with regular := p.regular ++ [param], defaults := p.defaults ++ [d] }
      | none =>
        if p.defaults.isEmpty then .ok { p with regular := p.regular ++ [param] }
        else .error (param.line, .defaultOrder)
  | .slash t =>
    if p.keywordRest.isSome then .error (t.line, .afterDoubleStar)
    else if p.starred then .error (t.line, .slashAfterStar)
    else if !p.positional.isEmpty then .error (t.line, .repeatedSlash)
    else if p.regular.isEmpty then .error (t.line, .slashFirst)
    else .ok { p with positional := p.regular, regular := [] }
  | .star t =>
    if p.keywordRest.isSome then .error (t.line, .afterDoubleStar)
    else if p.starred then .error (t.line, .repeatedStar)
    else .ok { p with starred := true, bare := some t }
  | .rest t param =>
    if p.keywordRest.isSome then .error (t.line, .afterDoubleStar)
    else if p.starred then .error (t.line, .repeatedStar)
    else .ok { p with starred := true, rest := some param }
  | .keywordRest t param =>
    if p.keywordRest.isSome then .error (t.line, .afterDoubleStar)
    else match p.bare with
      | some b => .error (b.line, .emptyBareStar)
      | none => .ok { p with keywordRest := some param }

def ParameterParts.finish (p : ParameterParts) : Except (Nat × Fault) ParameterParts :=
  match p.bare with
  | some b => .error (b.line, .emptyBareStar)
  | none => .ok p

/-- A parameter list, which may be empty. A sequence of items that is none is reported when known
mistakes are looked for. -/
def parameters (g : Grammar) (annotated : Bool) : Parser Node := do
  let items ← many (delimitedItem g annotated)
  let parts := items.foldlM (fun p item => p.add item) ({} : ParameterParts)
  match parts >>= ParameterParts.finish with
  | .ok p =>
    whenDiagnosing do
      if ← sees "(" then
        let grouped ← lookahead do
          let _ ← word "("
          let _ ← sepBy1 identifier ","
          let _ ← accept ","
          word ")"
        if grouped then raiseAt (← peek).line (.parenthesizedParameter (!annotated))
    return p.toNode
  | .error (line, fault) =>
    if ← diagnosing then raiseAt line fault else fail

end CodeReview.Source.Grammar
