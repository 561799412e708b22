import CodeReview.Text.Printable

/-!
Why a text is no program. A `Fault` is the cause; `Fault.message` is its wording, and a
`Diagnostic` adds the line that it is reported for.
-/

namespace CodeReview.Source

/-- What is wrong with a source text. -/
inductive Fault where
  -- characters and tokens
  | unterminatedString (triple : Bool) (detectedAt : Nat)
  | invalidLiteral (kind : Text)
  | invalidDigit (digit : Char) (kind : Text)
  | leadingZeros
  | tooManyDigits (count : Nat)
  | unmatched (close : Char)
  | mismatched (close opening : Char) (line : Option Nat)
  | neverClosed (opening : Char)
  | tooManyBrackets
  | invalidCharacter (c : Char)
  | unprintableCharacter (c : Char)
  | afterContinuation
  | unexpectedEnd
  | inconsistentDedent
  | tabsAndSpaces
  | tooManyLevels
  -- statements and expressions
  | invalidSyntax
  | unexpectedIndent
  | unexpectedUnindent
  | expected (what : Text)
  | expectedBlock (after : Text) (line : Nat)
  | forgottenComma
  | missingElse
  | missingParentheses (function : Text)
  | equalsInCondition
  | cannotAssign (what : Text)
  | cannotAssignHere (what : Text)
  | cannotDelete (what : Text)
  | cannotName (what : Text)
  | illegalAugmented (what : Text)
  | annotatedTuple
  | annotatedList
  | unfitForHint
  | yieldTarget
  | keywordAssignment
  | positionalAfterKeyword
  | positionalAfterUnpacking
  | starredAfterUnpacking
  | bareGenerator
  | defaultOrder
  | emptyBareStar
  | starDefault (double : Bool)
  | repeatedStar
  | afterDoubleStar
  | slashFirst
  | repeatedSlash
  | slashAfterStar
  | parenthesizedParameter (lambda : Bool)
  | starredHere (double : Bool)
  | unpackedComprehension (double : Bool)
  | comprehensionTarget
  | trailingComma
  | unparenthesizedExceptions
  | mixedExcepts
  | missingExceptionTypes
  | dictionaryValue
  | dictionaryKey
  | starredDictionaryValue
  | keywordPatternOrder
  -- literals
  | mixedBytes
  | nonAsciiBytes
  | badEscape (reason : Text) (start stop : Nat)
  | badByteEscape (position : Nat)
  | formatted (message : Text)
  | nested (inner : Fault)
  deriving Repr, Inhabited

namespace Fault

def quoted (c : Char) : Text :=
  ['\'', c, '\'']

/-- The code point in hexadecimal, at least four digits in upper case. -/
def codePoint (c : Char) : Text :=
  "U+" ++ (Text.hex 4 c.toNat).map Char.toUpper

def message : Fault → Text
  | unterminatedString triple line =>
    (if triple then "unterminated triple-quoted string literal"
      else "unterminated string literal" : Text)
      ++ " (detected at line " ++ Text.ofNat line ++ ")"
  | invalidLiteral kind => "invalid " ++ kind ++ " literal"
  | invalidDigit d kind => "invalid digit " ++ quoted d ++ " in " ++ kind ++ " literal"
  | leadingZeros =>
    "leading zeros in decimal integer literals are not permitted; use an 0o prefix for octal integers"
  | tooManyDigits n =>
    "Exceeds the limit (4300 digits) for integer string conversion: value has " ++ Text.ofNat n
      ++ " digits; use sys.set_int_max_str_digits() to increase the limit - Consider hexadecimal "
      ++ "for huge integer literals to avoid decimal conversion limits."
  | unmatched c => "unmatched " ++ quoted c
  | mismatched c o line =>
    "closing parenthesis " ++ quoted c ++ " does not match opening parenthesis " ++ quoted o
      ++ match line with
        | some n => " on line " ++ Text.ofNat n
        | none => []
  | neverClosed o => quoted o ++ " was never closed"
  | tooManyBrackets => "too many nested parentheses"
  | invalidCharacter c => "invalid character " ++ quoted c ++ " (" ++ codePoint c ++ ")"
  | unprintableCharacter c => "invalid non-printable character " ++ codePoint c
  | afterContinuation => "unexpected character after line continuation character"
  | unexpectedEnd => "unexpected EOF while parsing"
  | inconsistentDedent => "unindent does not match any outer indentation level"
  | tabsAndSpaces => "inconsistent use of tabs and spaces in indentation"
  | tooManyLevels => "too many levels of indentation"
  | invalidSyntax => "invalid syntax"
  | unexpectedIndent => "unexpected indent"
  | unexpectedUnindent => "unexpected unindent"
  | expected what => "expected " ++ what
  | expectedBlock after line =>
    "expected an indented block after " ++ after ++ " on line " ++ Text.ofNat line
  | forgottenComma => "invalid syntax. Perhaps you forgot a comma?"
  | missingElse => "expected 'else' after 'if' expression"
  | missingParentheses f =>
    "Missing parentheses in call to '" ++ f ++ "'. Did you mean " ++ f ++ "(...)?"
  | equalsInCondition => "invalid syntax. Maybe you meant '==' or ':=' instead of '='?"
  | cannotAssign what => "cannot assign to " ++ what
  | cannotAssignHere what =>
    "cannot assign to " ++ what ++ " here. Maybe you meant '==' instead of '='?"
  | cannotDelete what => "cannot delete " ++ what
  | cannotName what => "cannot use assignment expressions with " ++ what
  | illegalAugmented what =>
    "'" ++ what ++ "' is an illegal expression for augmented assignment"
  | annotatedTuple => "only single target (not tuple) can be annotated"
  | annotatedList => "only single target (not list) can be annotated"
  | unfitForHint => "illegal target for annotation"
  | yieldTarget => "assignment to yield expression not possible"
  | keywordAssignment =>
    "expression cannot contain assignment, perhaps you meant \"==\"?"
  | positionalAfterKeyword => "positional argument follows keyword argument"
  | positionalAfterUnpacking => "positional argument follows keyword argument unpacking"
  | starredAfterUnpacking =>
    "iterable argument unpacking follows keyword argument unpacking"
  | bareGenerator => "Generator expression must be parenthesized"
  | defaultOrder => "non-default argument follows default argument"
  | emptyBareStar => "named arguments must follow bare *"
  | starDefault double =>
    (if double then "var-keyword" else "var-positional" : Text)
      ++ " argument cannot have default value"
  | repeatedStar => "* argument may appear only once"
  | afterDoubleStar => "arguments cannot follow var-keyword argument"
  | slashFirst => "at least one argument must precede /"
  | repeatedSlash => "/ may appear only once"
  | slashAfterStar => "/ must be ahead of *"
  | parenthesizedParameter lambda =>
    (if lambda then "Lambda expression" else "Function" : Text)
      ++ " parameters cannot be parenthesized"
  | starredHere double =>
    (if double then "cannot use double starred expression here"
      else "cannot use starred expression here" : Text)
  | unpackedComprehension double =>
    (if double then "dict unpacking cannot be used in dict comprehension"
      else "iterable unpacking cannot be used in comprehension" : Text)
  | comprehensionTarget => "did you forget parentheses around the comprehension target?"
  | trailingComma => "trailing comma not allowed without surrounding parentheses"
  | unparenthesizedExceptions => "multiple exception types must be parenthesized"
  | mixedExcepts => "cannot have both 'except' and 'except*' on the same 'try'"
  | missingExceptionTypes => "expected one or more exception types"
  | dictionaryValue => "expression expected after dictionary key and ':'"
  | dictionaryKey => "':' expected after dictionary key"
  | starredDictionaryValue => "cannot use a starred expression in a dictionary value"
  | keywordPatternOrder => "positional patterns follow keyword patterns"
  | mixedBytes => "cannot mix bytes and nonbytes literals"
  | nonAsciiBytes => "bytes can only contain ASCII literal characters"
  | badEscape reason start stop =>
    "(unicode error) 'unicodeescape' codec can't decode bytes in position " ++ Text.ofNat start
      ++ "-" ++ Text.ofNat stop ++ ": " ++ reason
  | badByteEscape n => "(value error) invalid \\x escape at position " ++ Text.ofNat n
  | formatted text => "f-string" ++ text
  | nested inner => "f-string: " ++ message inner

end Fault

/-- A fault with the line that it is reported for. -/
structure Diagnostic where
  line : Nat
  fault : Fault
  deriving Repr, Inhabited

end CodeReview.Source
