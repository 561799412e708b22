import CodeReview.Entries
import CodeReview.Number.Basic
import CodeReview.Text.Quoted

/-!
Values of no fixed shape: what a settings file holds, and what an issue says about itself beside
its fixed parts.
-/

namespace CodeReview

inductive Value where
  | null
  | bool (b : Bool)
  | number (n : Number)
  | text (t : Text)
  | list (vs : List Value)
  | object (fields : List (Text × Value))
  deriving Inhabited

namespace Value

instance : Coe Number Value := ⟨.number⟩

instance : Coe Text Value := ⟨.text⟩

def ofNat (n : Nat) : Value :=
  .number (.int n)

def ofInt (i : Int) : Value :=
  .number (.int i)

def ofOption {α : Type} (f : α → Value) : Option α → Value
  | none => .null
  | some a => f a

def texts (ts : List Text) : Value :=
  .list (ts.map .text)

/-- An object with these fields. -/
def record (fields : List (String × Value)) : Value :=
  .object (fields.map fun f => (f.1.toList, f.2))

/-- The name of the kind of a value, as messages about it say. -/
def kind : Value → Text
  | null => "NoneType"
  | bool _ => "bool"
  | number (.int _) => "int"
  | number (.real _) => "float"
  | text _ => "str"
  | list _ => "list"
  | object _ => "dict"

/-- Whether a value counts as a yes. -/
def holds : Value → Bool
  | null => false
  | bool b => b
  | number (.int i) => i ≠ 0
  | number (.real x) => x != 0.0
  | text t => !t.isEmpty
  | list vs => !vs.isEmpty
  | object fields => !fields.isEmpty

def number? : Value → Option Number
  | number n => some n
  | _ => none

def int? : Value → Option Int
  | number (.int i) => some i
  | _ => none

def text? : Value → Option Text
  | text t => some t
  | _ => none

def bool? : Value → Option Bool
  | bool b => some b
  | _ => none

def list? : Value → Option (List Value)
  | list vs => some vs
  | _ => none

/-- A list that holds texts only. -/
def texts? : Value → Option (List Text)
  | list vs => vs.mapM text?
  | _ => none

def fields? : Value → Option (List (Text × Value))
  | object fields => some fields
  | _ => none

/-- A field of an object; other values have none. -/
def field? (v : Value) (name : Text) : Option Value :=
  match v with
  | object fields => Entries.get? fields name
  | _ => none

mutual

/-- A value as it is written in messages: texts stand in quotes. -/
def shown : Value → Text
  | null => "None"
  | bool true => "True"
  | bool false => "False"
  | number n => n.toText
  | text t => Text.quoted t
  | list vs => "[" ++ shownList vs ++ "]"
  | object fields => "\x7b" ++ shownFields fields ++ "\x7d"

def shownList : List Value → Text
  | [] => []
  | [v] => shown v
  | v :: vs => shown v ++ ", " ++ shownList vs

def shownFields : List (Text × Value) → Text
  | [] => []
  | [(k, v)] => Text.quoted k ++ ": " ++ shown v
  | (k, v) :: rest => Text.quoted k ++ ": " ++ shown v ++ ", " ++ shownFields rest

end

/-- A value as part of a sentence: a text stands for itself. -/
def inText : Value → Text
  | text t => t
  | v => shown v

end Value

end CodeReview
