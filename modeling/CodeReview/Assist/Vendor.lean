import CodeReview.Number.Basic

/-!
The vendors of language models, their models and what these cost.
-/

namespace CodeReview.Assist

inductive Vendor where
  | anthropic
  | openai
  | groq
  deriving DecidableEq, Repr

/-- US dollars for a million tokens that go in and that come out. -/
structure Price where
  input : Float
  output : Float

/-- The price of some tokens. -/
def Price.of (p : Price) (input output : Number) : Float :=
  input.divNat 1000000 * p.input + output.divNat 1000000 * p.output

namespace Vendor

def all : List Vendor :=
  [anthropic, openai, groq]

/-- The name by which a vendor is asked for; its package is called the same. -/
def name : Vendor → Text
  | anthropic => "anthropic"
  | openai => "openai"
  | groq => "groq"

def ofName? (t : Text) : Option Vendor :=
  all.find? fun v => v.name = t

def title : Vendor → Text
  | anthropic => "Anthropic"
  | openai => "OpenAI"
  | groq => "Groq"

/-- Where a key is looked for that is not given. -/
def keyName : Vendor → Text
  | anthropic => "ANTHROPIC_API_KEY"
  | openai => "OPENAI_API_KEY"
  | groq => "GROQ_API_KEY"

/-- The models that are known, with their prices. -/
def priced : Vendor → List (Text × Price)
  | anthropic =>
    [("claude-opus-4-20250514".toList, ⟨15.0, 75.0⟩),
      ("claude-sonnet-4-20250514".toList, ⟨3.0, 15.0⟩),
      ("claude-3-5-sonnet-20241022".toList, ⟨3.0, 15.0⟩),
      ("claude-3-5-haiku-20241022".toList, ⟨0.8, 4.0⟩),
      ("claude-3-opus-20240229".toList, ⟨15.0, 75.0⟩),
      ("claude-3-sonnet-20240229".toList, ⟨3.0, 15.0⟩),
      ("claude-3-haiku-20240307".toList, ⟨0.25, 1.25⟩)]
  | openai =>
    [("gpt-4o".toList, ⟨5.0, 15.0⟩),
      ("gpt-4o-mini".toList, ⟨0.15, 0.6⟩),
      ("gpt-4-turbo".toList, ⟨10.0, 30.0⟩),
      ("gpt-4".toList, ⟨30.0, 60.0⟩),
      ("gpt-3.5-turbo".toList, ⟨0.5, 1.5⟩),
      ("gpt-3.5-turbo-16k".toList, ⟨1.0, 2.0⟩)]
  | groq =>
    [("llama-3.3-70b-versatile".toList, ⟨0.59, 0.79⟩),
      ("llama-3.1-70b-versatile".toList, ⟨0.59, 0.79⟩),
      ("llama-3.1-8b-instant".toList, ⟨0.05, 0.08⟩),
      ("llama3-70b-8192".toList, ⟨0.59, 0.79⟩),
      ("llama3-8b-8192".toList, ⟨0.05, 0.08⟩),
      ("mixtral-8x7b-32768".toList, ⟨0.24, 0.24⟩),
      ("gemma2-9b-it".toList, ⟨0.20, 0.20⟩),
      ("gemma-7b-it".toList, ⟨0.07, 0.07⟩)]

def models (v : Vendor) : List Text :=
  v.priced.map (·.1)

def standardModel : Vendor → Text
  | anthropic => "claude-sonnet-4-20250514"
  | openai => "gpt-4o"
  | groq => "llama-3.3-70b-versatile"

/-- The price of a model that is not known. -/
def standardPrice : Vendor → Price
  | anthropic => ⟨3.0, 15.0⟩
  | openai => ⟨5.0, 15.0⟩
  | groq => ⟨0.59, 0.79⟩

def price (v : Vendor) (model : Text) : Price :=
  (v.priced.lookup model).getD v.standardPrice

end Vendor

end CodeReview.Assist
