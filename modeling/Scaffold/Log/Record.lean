/-!
# Log records

What the stages of a run report: a level, the logger's name and a message. A state that collects
records is a `Journal`; `note` adds one.
-/

namespace Scaffold.Log

/-- Levels in rising order. -/
inductive Level
  | debug
  | info
  | warning
  | error
  | critical
deriving Repr, DecidableEq

/-- The number that levels are compared by. -/
def Level.rank : Level → Nat
  | debug => 10
  | info => 20
  | warning => 30
  | error => 40
  | critical => 50

/-- The name of a level. -/
def Level.name : Level → String
  | debug => "DEBUG"
  | info => "INFO"
  | warning => "WARNING"
  | error => "ERROR"
  | critical => "CRITICAL"

/-- One report. -/
structure Record where
  level : Level
  /-- the part of the program that reports -/
  logger : String
  message : String
deriving Repr, DecidableEq

/-- A state that records can be added to. -/
class Journal (σ : Type) where
  /-- the least rank that is kept -/
  threshold : σ → Nat
  add : Record → σ → σ

variable {σ : Type} [Journal σ]

/-- Report something. -/
def note (level : Level) (logger message : String) : StateM σ Unit :=
  modify (Journal.add ⟨level, logger, message⟩)

/-- Records of a level are kept. -/
def isEnabled (level : Level) : StateM σ Bool :=
  return Journal.threshold (← get) ≤ level.rank

end Scaffold.Log
