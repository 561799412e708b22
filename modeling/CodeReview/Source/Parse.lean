import CodeReview.Source.Grammar.Statement

/-!
Source texts as syntax trees.
-/

namespace CodeReview.Source

/-- What a text is read as. -/
inductive Parsed where
  | tree (node : Node)
  | faulty (d : Diagnostic)
  /-- A text with a NUL character is not read at all. -/
  | unreadable

namespace Parsed

def tree? : Parsed → Option Node
  | tree n => some n
  | _ => none

end Parsed

/-- The number of tokens and of their characters. -/
def Token.size (tokens : List Token) : Nat :=
  tokens.foldl (fun n t => n + t.text.length + 1) 0

/-- Reads a text without NUL characters. Each level of nesting takes at least one token, or one
character of a formatted string. -/
def parseTree (source : Text) : Except Diagnostic Node :=
  let tokens := Token.scan source
  Parser.run (Grammar.wholeModule (Grammar.upTo (Token.size tokens + 8))) id tokens

def parse (source : Text) : Parsed :=
  if source.any (· = '\x00') then .unreadable
  else match parseTree source with
    | .ok n => .tree n
    | .error d => .faulty d

end CodeReview.Source
