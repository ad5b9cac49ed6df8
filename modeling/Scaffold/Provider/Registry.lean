import Scaffold.Provider.Runner

/-!
# The registry of runners

One runner is kept and handed out while the provider settings stay the same; it is dropped when
they change. Whoever loads settings tells the registry of them (`Registry.observe`), in two steps
between which others may act: they are recorded first, and then the runner is dropped if they differ
from those recorded before.
-/

namespace Scaffold.Provider
open Scaffold.Config

/-- The runner that is kept, what the settings it was built from say, and what the settings that
were loaded last say. -/
structure Registry (R : Type) where
  runner : Option R
  signature : Option Llm.Signature
  observed : Option Llm.Signature
  /-- how many settings were loaded -/
  readings : Nat

namespace Registry

variable {R : Type}

/-- No runner, and nothing loaded. -/
def empty : Registry R := ⟨none, none, none, 0⟩

/-- A runner is kept. -/
def isActive (r : Registry R) : Bool := r.runner.isSome

/-- Drop the runner. -/
def reset (r : Registry R) : Registry R := { r with runner := none, signature := none }

/-- The runner that is kept for these settings. -/
def current? (r : Registry R) (config : Llm) : Option R :=
  if r.signature = some config.signature then r.runner else none

/-- Keep a runner that was built from settings. -/
def keep (r : Registry R) (config : Llm) (runner : R) : Registry R :=
  { r with runner := some runner, signature := some config.signature }

/-- A runner for settings: the one kept, or one that `build` makes. When `build` fails all stays as
it is. -/
def resolve {m : Type → Type} [Monad m] (build : Llm → m (Except Failure R)) (config : Llm)
    (r : Registry R) : m (Except Failure R × Registry R) := do
  match r.current? config with
  | some runner => return (.ok runner, r)
  | none =>
    match ← build config with
    | .ok runner => return (.ok runner, r.keep config runner)
    | .error f => return (.error f, r)

/-- A changed key concerns the provider. -/
def concerns (key : String) : Bool :=
  key == "llm" || "llm.".toList.isPrefixOf key.toList

/-- Changed keys drop the runner if one of them concerns the provider. -/
def notify (keys : List String) (r : Registry R) : Bool × Registry R :=
  if keys.any concerns then (true, r.reset) else (false, r)

/-- The settings last loaded say something else. -/
def differs (r : Registry R) (config : Llm) : Bool :=
  match r.observed with
  | none => false
  | some before => before != config.signature

/-- Remember loaded settings. -/
def record (config : Llm) (r : Registry R) : Registry R :=
  { r with observed := some config.signature, readings := r.readings + 1 }

/-- Drop the runner if settings were found to differ. -/
def settle (differed : Bool) (r : Registry R) : Bool × Registry R :=
  if differed then r.notify ["llm"] else (false, r)

/-- Remember loaded settings, and drop the runner if they differ from those loaded before. -/
def observe (config : Llm) (r : Registry R) : Bool × Registry R :=
  (r.record config).settle (r.differs config)

end Registry

/-- The options of a runner for settings. -/
def Options.ofConfig (config : Llm) : Options :=
  let default : Options := {}
  { model := given config.model
    baseUrl := config.baseUrl
    apiKey := config.apiKey
    temperature := config.temperature.or default.temperature
    maxTokens := config.maxTokens
    requestTimeout := config.requestTimeout.or default.requestTimeout }

end Scaffold.Provider
