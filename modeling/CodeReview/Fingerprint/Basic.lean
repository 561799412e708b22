import CodeReview.Digest.Sha2
import CodeReview.Number.Basic

/-!
Fingerprints of data: digests that are equal for data that count as the same. Floating-point numbers
count as the same when they agree in six digits, and the order of sets and maps does not matter.
-/

namespace CodeReview.Fingerprint

inductive Datum where
  | nothing
  | bool (b : Bool)
  | number (n : Number)
  | text (t : Text)
  | octets (kind : Text) (bs : Bytes)
  | sequence (kind : Text) (items : List Datum)
  | collection (kind : Text) (items : List Datum)
  | mapping (kind : Text) (entries : List (Datum × Datum))
  | complex (re im : Float)
  /-- Data of other kinds count as what is written for them. -/
  | other (kind written : Text)
  deriving Inhabited

namespace Datum

/-- The name of the kind of a datum. -/
def kind : Datum → Text
  | nothing => "NoneType"
  | bool _ => "bool"
  | number (.int _) => "int"
  | number (.real _) => "float"
  | text _ => "str"
  | octets kind _ | sequence kind _ | collection kind _ | mapping kind _ | other kind _ => kind
  | complex .. => "complex"

/-- How many digits of a floating-point number count. -/
def digits : Nat := 6

def realStream (x : Float) : Bytes :=
  Text.utf8 (Number.realText (Number.significant digits x))

def digest (stream : Bytes) : Text :=
  Digest.hex (Digest.sha256 stream)

/-- A letter and a count in front of the members. -/
def headed (letter : Text) (count : Nat) : Bytes :=
  Text.utf8 (letter ++ Text.ofNat count)

mutual

/-- The bytes that stand for a datum. Entries come in the order of the digests of their names,
members of a collection in the order of their own. -/
def stream : Datum → Bytes
  | nothing => Text.utf8 "None"
  | bool true => Text.utf8 "True"
  | bool false => Text.utf8 "False"
  | number (.int i) => Text.utf8 (Text.ofInt i)
  | number (.real x) => realStream x
  | text t => Text.utf8 ('s' :: t)
  | octets _ bs => Text.utf8 "s" ++ bs
  | sequence _ items => headed "L" items.length ++ (streams items).flatten
  | collection _ items =>
    headed "S" items.length
      ++ (((streams items).map digest).mergeSort Text.le).flatMap Text.utf8
  | mapping _ entries =>
    headed "D" entries.length
      ++ ((entryStreams entries).mergeSort fun a b => Text.le (digest a.1) (digest b.1)).flatMap
        fun e => e.1 ++ e.2
  | complex re im => Text.utf8 "c" ++ realStream re ++ realStream im
  | other _ written => Text.utf8 written

def streams : List Datum → List Bytes
  | [] => []
  | d :: rest => stream d :: streams rest

def entryStreams : List (Datum × Datum) → List (Bytes × Bytes)
  | [] => []
  | (k, v) :: rest => (stream k, stream v) :: entryStreams rest

end

def fingerprint (d : Datum) : Text :=
  digest d.stream

end Datum

end CodeReview.Fingerprint
