import CodeReview.Text.Quoted

/-!
Why an operation cannot be carried out. A `Failure` is the cause, `Failure.message` its wording.
-/

namespace CodeReview

/-- What is wrong with a path on a disk. -/
inductive Trouble where
  | missing
  | exists
  | notDirectory
  | isDirectory
  deriving DecidableEq, Repr, Inhabited

def Trouble.message : Trouble → Text
  | missing => "[Errno 2] No such file or directory"
  | «exists» => "[Errno 17] File exists"
  | notDirectory => "[Errno 20] Not a directory"
  | isDirectory => "[Errno 21] Is a directory"

/-- Bytes that are no text: those from `start` up to `stop`, the first of which is `byte`. -/
structure Undecodable where
  encoding : Text
  byte : UInt8
  start : Nat
  stop : Nat
  reason : Text
  deriving DecidableEq, Repr, Inhabited

def Undecodable.message (u : Undecodable) : Text :=
  "'" ++ u.encoding ++ "' codec can't decode "
    ++ (if u.stop = u.start + 1 then
        ("byte 0x" ++ Text.hex 2 u.byte.toNat ++ " in position " ++ Text.ofNat u.start : Text)
      else "bytes in position " ++ Text.ofNat u.start ++ "-" ++ Text.ofNat (u.stop - 1))
    ++ ": " ++ u.reason

inductive Failure where
  /-- A source text is given up before all comments are found. -/
  | commentsLost
  /-- A value of some kind has no member of this name. -/
  | missingMember (kind member : Text)
  /-- What a check that was plugged in says when it gives up. -/
  | reported (text : Text)
  /-- Values of these kinds have no order. -/
  | notOrdered (left right : Text)
  /-- A text that should be one of the names of `family`. -/
  | notValid (text family : Text)
  /-- A text that should be in a list. -/
  | notListed (text : Text)
  | unknownMinimum (text : Text)
  | unknownFormat (text : Text)
  /-- A named part that `maker` does not take. -/
  | unexpectedPart (maker name : Text)
  /-- A named option that `action` does not take. -/
  | unexpectedOption (action name : Text)
  /-- Named parts that `maker` needs. -/
  | missingParts (maker : Text) (names : List Text)
  /-- Settings that are no named values. -/
  | notNamed (kind : Text)
  /-- A value that cannot be gone through. -/
  | notIterable (kind : Text)
  /-- A value that cannot be searched. -/
  | notSearchable (kind : Text)
  /-- A value that has no first part. -/
  | notSubscriptable (kind : Text)
  /-- A value that cannot be searched for in a text. -/
  | notInText (kind : Text)
  /-- A whole number with too many digits to be written. -/
  | tooManyDigits
  /-- A value in a formatted text that cannot be written without a backslash. -/
  | backslashNeeded
  /-- A pattern for paths that has no parts. -/
  | emptyPathPattern
  /-- A text that is no pattern for texts. -/
  | badPattern (text : Text)
  | repetitionTooLarge
  | incompatibleFlags
  /-- A rule that checks nothing. -/
  | noChecker
  /-- Steps of length zero. -/
  | zeroStep
  /-- A path that cannot be used as it is wanted. -/
  | onDisk (trouble : Trouble) (path : Text)
  | fileNotFound (path : Text)
  | directoryNotFound (path : Text)
  | notADirectory (path : Text)
  | invalidPath (path : Text)
  /-- Bytes that are no text in an encoding. -/
  | undecodable (u : Undecodable)
  /-- Bytes that should tell their order and do not. -/
  | noByteOrder (encoding : Text)
  | unknownEncoding (name : Text)
  | unknownDigest (name : Text)
  | noWorkers
  /-- A file with settings that is not there. -/
  | settingsNotFound (path : Text)
  /-- A file with settings whose name does not tell a format that is known. -/
  | unknownSettingsFormat (path : Text)
  | noYaml
  /-- A text that is no JSON document. -/
  | badJson (text : Text)
  /-- A line to a service that breaks. -/
  | broken (reason : Text)
  /-- A service that answers with an error. -/
  | refused (service : Text) (status : Int) (body : Text)
  /-- An address that does not say how to reach it. -/
  | noScheme (url : Text)
  /-- A service that needs a token, and the name under which it is looked for. -/
  | noToken (service name : Text)
  /-- A vendor, if it is told, that needs a key, and the name under which it is looked for. -/
  | noKey (vendor : Option Text) (name : Text)
  | unknownVendor (name : Text)
  /-- A package that is not there. -/
  | noPackage (name : Text)
  /-- A list without the member that is wanted. -/
  | beyondList
  deriving DecidableEq, Repr, Inhabited

namespace Failure

/-- Names in quotes, with commas and an "and" before the last of them. -/
def enumerated (names : List Text) : Text :=
  let quoted (t : Text) : Text := "'" ++ t ++ "'"
  match names.reverse with
  | [] => []
  | [a] => quoted a
  | [b, a] => quoted a ++ " and " ++ quoted b
  | last :: others => Text.join ", " (others.reverse.map quoted) ++ ", and " ++ quoted last

def message : Failure → Text
  | commentsLost => "module 'tokenize' has no attribute 'TokenizeError'"
  | missingMember kind member => "'" ++ kind ++ "' object has no attribute '" ++ member ++ "'"
  | reported text => text
  | notOrdered left right =>
    "'>' not supported between instances of '" ++ left ++ "' and '" ++ right ++ "'"
  | notValid text family => Text.quoted text ++ " is not a valid " ++ family
  | notListed text => Text.quoted text ++ " is not in list"
  | unknownMinimum text =>
    "Invalid min_severity: " ++ text
      ++ ". Must be one of: \x7b'critical', 'high', 'info', 'low', 'medium'\x7d"
  | unknownFormat text =>
    "Invalid output_format: " ++ text
      ++ ". Must be one of: \x7b'html', 'json', 'markdown', 'terminal'\x7d"
  | unexpectedPart maker name =>
    maker ++ ".__init__() got an unexpected keyword argument '" ++ name ++ "'"
  | unexpectedOption action name =>
    action ++ "() got an unexpected keyword argument '" ++ name ++ "'"
  | missingParts maker names =>
    maker ++ ".__init__() missing " ++ Text.ofNat names.length ++ " required positional argument"
      ++ (if names.length = 1 then [] else ['s']) ++ ": " ++ enumerated names
  | notNamed kind => "paila.config.Config() argument after ** must be a mapping, not " ++ kind
  | notIterable kind => "'" ++ kind ++ "' object is not iterable"
  | notSearchable kind => "argument of type '" ++ kind ++ "' is not iterable"
  | notSubscriptable kind => "'" ++ kind ++ "' object is not subscriptable"
  | notInText kind => "'in <string>' requires string as left operand, not " ++ kind
  | tooManyDigits =>
    ("Exceeds the limit (4300 digits) for integer string conversion; "
      ++ "use sys.set_int_max_str_digits() to increase the limit" : String)
  | backslashNeeded => "Unable to avoid backslash in f-string expression part"
  | emptyPathPattern => "empty pattern"
  | badPattern text => text
  | repetitionTooLarge => "the repetition number is too large"
  | incompatibleFlags => "ASCII and UNICODE flags are incompatible"
  | onDisk trouble path => trouble.message ++ ": " ++ Text.quoted path
  | fileNotFound path => "File not found: " ++ path
  | directoryNotFound path => "Directory not found: " ++ path
  | notADirectory path => "Not a directory: " ++ path
  | invalidPath path => "Invalid path: " ++ path
  | undecodable u => u.message
  | noByteOrder encoding => encoding ++ " stream does not start with BOM"
  | unknownEncoding name => "unknown encoding: " ++ name
  | unknownDigest name => "unsupported hash type " ++ name
  | noWorkers => "max_workers must be greater than 0"
  | settingsNotFound path => "Config file not found: " ++ path
  | unknownSettingsFormat path => "Unsupported config format: " ++ path
  | noYaml => "PyYAML required for YAML config files"
  | badJson text => text
  | broken reason => reason
  | refused service status body =>
    service ++ " API error: " ++ Text.ofInt status ++ " - " ++ body
  | noScheme url => "unknown url type: " ++ Text.quoted url
  | noToken service name =>
    service ++ " token required. Set " ++ name
      ++ " environment variable or pass token parameter."
  | noKey vendor name =>
    (match vendor with
      | some v => v ++ " "
      | none => []) ++ "API key required. Set " ++ name
      ++ " environment variable or pass api_key parameter."
  | unknownVendor name =>
    "Unknown provider: " ++ name ++ ". Available: ['anthropic', 'openai', 'groq']"
  | noPackage name => name ++ " package required. Install with: pip install " ++ name
  | beyondList => "list index out of range"
  | zeroStep => "range() arg 3 must not be zero"
  | noChecker => "Rule must have a checker function"

end Failure

end CodeReview
