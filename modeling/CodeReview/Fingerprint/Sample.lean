import CodeReview.Bytes
import CodeReview.Files.Path
import CodeReview.Fingerprint.Basic
import CodeReview.Json.Reader
import CodeReview.Metrics
import CodeReview.Result.Reader

/-!
Samples: functions known by some of their results, and what the fingerprints of the results tell.
-/

namespace CodeReview.Fingerprint

namespace Datum

def intOf (t : Text) : Int :=
  match Json.readNumber? (if t.head? = some '0' then t.dropWhile (· = '0') else t) with
  | some (.int i, _) => i
  | _ => 0

/-- A fraction in lowest terms. -/
def fractionText (t : Text) : Text :=
  match Text.split t "/" with
  | [a, b] =>
    let n := intOf a
    let d := intOf b
    let g : Int := n.gcd d
    "Fraction(" ++ Text.ofInt (n / g) ++ ", " ++ Text.ofInt (d / g) ++ ")"
  | _ => "Fraction(" ++ Text.ofInt (intOf t) ++ ", 1)"

def dateText (t : Text) : Text :=
  "datetime.date(" ++ Text.join ", " ((Text.split t "-").map fun p => Text.ofInt (intOf p)) ++ ")"

/-- A datum in `count` lists. -/
def nested : Nat → Datum → Datum
  | 0, d => d
  | n + 1, d => .sequence "list" [nested n d]

def ofMetrics (fields : List (Text × Value)) : Datum :=
  let m := match Metrics.ofFields fields with
    | .ok m => m
    | .error _ => {}
  .mapping "Metrics" (m.numbers.map fun f => (.text f.1.toList, .number f.2))

/-- A datum of a kind, written as the value `v`. Its members are in `members`, and in pairs in
`entries`. -/
def ofTag (tag : String) (v : Value) (members : List Datum) (entries : List (Datum × Datum)) :
    Datum :=
  let count : Nat := (v.int?.getD 0).toNat
  match tag with
  | "tuple" => .sequence "tuple" members
  | "set" | "frozenset" => .collection tag.toList members
  | "dict" => .mapping "dict" entries
  | "bytes" | "bytearray" => .octets tag.toList (Bytes.ofHex v.inText)
  | "complex" =>
    match members with
    | [.number a, .number b] => .complex a.toReal b.toReal
    | _ => .complex 0.0 0.0
  | "range" => .sequence "list" ((List.range count).map fun (n : Nat) => .number (.int n))
  | "nest" => nested count (.number 7)
  | "date" => .other "date" (dateText v.inText)
  | "path" => .other "PosixPath" ("PosixPath(" ++ Text.quoted (Path.ofText v.inText).toText ++ ")")
  | "decimal" => .other "Decimal" ("Decimal('" ++ v.inText ++ "')")
  | "fraction" => .other "Fraction" (fractionText v.inText)
  | "metrics" => ofMetrics (v.fields?.getD [])
  | _ => .other "object" "<builtins.object>"

/-- The pairs among some data. -/
def pairs (ds : List Datum) : List (Datum × Datum) :=
  ds.filterMap fun d =>
    match d with
    | .sequence _ [k, v] => some (k, v)
    | _ => none

mutual

/-- Reads a datum. An object with a field `t` names the kind and has the rest in `v`. -/
def ofValue : Value → Datum
  | .null => .nothing
  | .bool b => .bool b
  | .number n => .number n
  | .text t => .text t
  | .list vs => .sequence "list" (ofValues vs)
  | .object fields =>
    let v := (Entries.get? fields "v").getD .null
    let members := membersOf fields
    ofTag (String.ofList (((Entries.get? fields "t").getD .null).inText)) v members (pairs members)

def ofValues : List Value → List Datum
  | [] => []
  | v :: vs => ofValue v :: ofValues vs

/-- The members of a list in the field `v`. -/
def membersOf : List (Text × Value) → List Datum
  | [] => []
  | (name, .list vs) :: rest => if name = ['v'] then ofValues vs else membersOf rest
  | _ :: rest => membersOf rest

end

end Datum

/-- A function, known by its result without arguments and its results for some arguments. One that
fails has no results. -/
structure Sample where
  value : Datum
  results : List (Value × Datum) := []
  fails : Bool := false

namespace Sample

def ofValue (v : Value) : Sample where
  value := Datum.ofValue (v.fieldOr "value" .null)
  results := (v.listField "params").filterMap fun p =>
    match p with
    | .list [arguments, result] => some (arguments, Datum.ofValue result)
    | _ => none
  fails := (v.field? "raise").isSome

/-- The result for some arguments; those that are not known have the result for none. -/
def resultFor (s : Sample) (arguments : Value) : Datum :=
  match s.results.find? fun r => r.1.shown = arguments.shown with
  | some r => r.2
  | none => s.value

/-- The arguments of a call in writing. -/
def callText (arguments : Value) : Text :=
  match arguments.fields?.getD [] with
  | [] => "-"
  | fields => Text.join "," (fields.map fun f => f.1 ++ "=" ++ f.2.inText)

/-- What the fingerprints of a function tell: of its result, twice, of its results for arguments,
and of the arguments. -/
def toValue (s : Sample) : Value :=
  if s.fails then
    .record
      [("ret_type", .text "<ValueError>"), ("fp_stable", .list []), ("fp_by_param", .object []),
        ("param_fps", .list [])]
  else
    let plain := s.resultFor (.object [])
    let print := plain.fingerprint
    let byCall : Entries Value := .ofPairs (s.results.map fun r =>
      (callText r.1, .text (s.resultFor r.1).fingerprint))
    let arguments := s.results.flatMap fun r =>
      (r.1.fields?.getD []).map fun f => (Datum.ofValue f.2).fingerprint
    .record
      [("ret_type", .text plain.kind), ("fp_stable", .texts [print, print]),
        ("fp_by_param", .object byCall),
        ("param_fps", .texts ((arguments.eraseDups).mergeSort Text.le))]

end Sample

/-- The names of functions that are looked at start with this. -/
def mark : Text :=
  "bench_"

/-- What the fingerprints of all functions that are looked at tell. -/
def table (samples : List (Text × Value)) : Value :=
  .object ((samples.filter fun s => Text.startsWith s.1 mark).map fun s =>
    (s.1, (Sample.ofValue s.2).toValue))

end CodeReview.Fingerprint
