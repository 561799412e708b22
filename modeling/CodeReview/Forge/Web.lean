import CodeReview.Bytes
import CodeReview.Json.Printer
import CodeReview.Service.Line
import CodeReview.Settings.File
import CodeReview.Text.Blank

/-!
Requests to a service on the web that takes and gives JSON.
-/

namespace CodeReview.Forge

/-! ## Addresses -/

namespace Url

/-- An address without the blanks, the angle brackets and the `URL:` that may stand around it. -/
def unwrap (t : Text) : Text :=
  let t := Text.strip t
  let t :=
    if t.head? = some '<' && t.getLast? = some '>' then Text.strip ((t.drop 1).dropLast) else t
  if Text.startsWith t "URL:" then Text.strip (t.drop 4) else t

/-- An address before and after its last `#`. -/
def fragment (t : Text) : Text × Text :=
  match t.reverse.findIdx? (· = '#') with
  | none => (t, [])
  | some i => (t.take (t.length - 1 - i), t.drop (t.length - i))

def hasScheme (t : Text) : Bool :=
  let name := t.takeWhile fun c => c ≠ '/' && c ≠ ':'
  !name.isEmpty && (t.drop name.length).head? = some ':'

/-- The address that a request goes to. -/
def read (t : Text) : Except Failure Text :=
  let (body, tag) := fragment (unwrap t)
  let whole := if tag.isEmpty then body else body ++ "#" ++ tag
  if hasScheme body then .ok whole else .error (.noScheme whole)

/-- Whether a byte stands for itself in a part of an address. -/
def isPlain (b : UInt8) : Bool :=
  let c := Char.ofNat b.toNat
  b < 128 && (c.isAlphanum || c = '_' || c = '.' || c = '-' || c = '~')

/-- A text as one part of an address. -/
def encode (t : Text) : Text :=
  (Text.utf8 t).flatMap fun b =>
    if isPlain b then [Char.ofNat b.toNat]
    else '%' :: (Text.hex 2 b.toNat).map Char.toUpper

end Url

/-! ## Requests -/

structure Request where
  method : Text
  url : Text
  /-- The headers, by their names in lower case. -/
  headers : Entries Text
  body : Option Text
  deriving DecidableEq, Repr

def Request.toValue (r : Request) : Value :=
  .record
    [("method", .text r.method), ("url", .text r.url),
      ("headers", .object (r.headers.map fun h => (h.1, .text h.2))),
      ("body", .ofOption .text r.body)]

structure Reply where
  status : Int
  body : Text
  /-- Whether it is taken as a failure on the way. -/
  failed : Bool := decide (400 ≤ status)
  deriving DecidableEq, Repr

abbrev Exchange := Course (Line Request Reply)

/-- What tells one service from another. -/
structure Api where
  title : Text
  /-- The headers for a token. -/
  headers : Text → Entries Text
  /-- Whether an answer may be empty. -/
  mayBeEmpty : Bool

/-- An account at a service. -/
structure Account where
  token : Text
  base : Text
  deriving DecidableEq, Repr

/-- A request to an address. -/
def Api.request (api : Api) (a : Account) (method url : Text) (data : Option Value) : Request where
  method := method
  url := url
  headers := api.headers a.token
  body := data.map (Json.compact Json.ascii)

/-- What a reply says. -/
def Api.read (api : Api) (reply : Reply) : Except Failure Value :=
  if reply.failed then .error (.refused api.title reply.status reply.body)
  else if api.mayBeEmpty && reply.body.isEmpty then .ok (.object [])
  else Settings.readJson reply.body

/-- Asks for something and reads the answer. -/
def Api.send (api : Api) (a : Account) (method endpoint : Text) (data : Option Value) :
    Exchange Value := do
  let url ← Course.lift (Url.read (a.base ++ endpoint))
  let reply ← Line.ask (api.request a method url data)
  Course.lift (api.read reply)

/-- A field of what was answered, `default` if it is not there. -/
def fieldOf (v : Value) (name : Text) (default : Value) : Except Failure Value :=
  match v with
  | .object fields => .ok ((Entries.get? fields name).getD default)
  | v => .error (.missingMember v.kind "get")

/-- The members of what was answered. -/
def membersOf (v : Value) : Except Failure (List Value) :=
  (Setting.other v).members

/-- The first text that is not empty. -/
def firstGiven (ts : List (Option Text)) : Option Text :=
  (ts.filterMap fun t => t).find? fun t => !t.isEmpty

/-- An account with the first of some tokens that is given; `name` is where a token is looked
for. An address has to be given too. -/
def Api.account (api : Api) (tokens : List (Option Text)) (base : Option Text) (name : Text) :
    Except Failure Account := do
  let base ← match base with
    | some b => pure b
    | none => throw (.missingMember "NoneType" "rstrip")
  match firstGiven tokens with
  | some token => return { token := token, base := Text.dropRightWhile (· = '/') base }
  | none => throw (.noToken api.title name)

end CodeReview.Forge
