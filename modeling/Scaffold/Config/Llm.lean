import Scaffold.Decimal.Number

/-!
# Provider settings

What a configuration says about the text-generation provider. A runner built from settings may serve
all that have the same signature (`Llm.signature`).
-/

namespace Scaffold.Config

/-- Settings of the provider; what is not said is left to the environment or a default. -/
structure Llm where
  model : Option String := none
  baseUrl : Option String := none
  apiKey : Option String := none
  temperature : Option Number := none
  maxTokens : Option Number := none
  requestTimeout : Option Number := none

namespace Llm

/-- The values of the settings. Two settings say the same when these agree. -/
structure Signature where
  model : Option String
  baseUrl : Option String
  apiKey : Option String
  temperature : Option Number.Value
  maxTokens : Option Number.Value
  requestTimeout : Option Number.Value
deriving DecidableEq

/-- What the settings say. -/
def signature (a : Llm) : Signature where
  model := a.model
  baseUrl := a.baseUrl
  apiKey := a.apiKey
  temperature := a.temperature.map Number.value
  maxTokens := a.maxTokens.map Number.value
  requestTimeout := a.requestTimeout.map Number.value

/-- The settings as a given reading gives them. -/
def readAt (reading : Nat) (a : Llm) : Llm :=
  { a with
    temperature := a.temperature.map (Number.readAt reading)
    maxTokens := a.maxTokens.map (Number.readAt reading)
    requestTimeout := a.requestTimeout.map (Number.readAt reading) }

/-- The numbers that are set. -/
def numbers (a : Llm) : List Number :=
  a.temperature.toList ++ a.maxTokens.toList ++ a.requestTimeout.toList

/-- A text that is set and not empty. -/
def saysText : Option String → Bool
  | some s => !s.isEmpty
  | none => false

/-- Something is said: a text that is not empty, or a number that is not zero. -/
def saysAnything (a : Llm) : Bool :=
  saysText a.model || saysText a.baseUrl || saysText a.apiKey ||
    a.numbers.any fun n => !n.isZero

end Llm

end Scaffold.Config
