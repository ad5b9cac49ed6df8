import Scaffold.Log.Record
import Scaffold.Provider.Registry

/-!
# The registry in use

A desk is the registry of runners together with the state that runners act on. Its operations are
those of the registry; they report when a runner is dropped or replaced.
-/

namespace Scaffold.Provider
open Scaffold.Config

/-- A registry, and what runners act on. -/
structure Desk (R ρ : Type) where
  registry : Registry R
  rest : ρ

namespace Desk

variable {R ρ α : Type}

/-- Act on what runners act on. -/
def onRest (act : StateM ρ α) : StateM (Desk R ρ) α := fun d =>
  let (a, rest) := act d.rest
  (a, { d with rest := rest })

/-- Act on the registry. -/
def onRegistry (act : Registry R → α × Registry R) : StateM (Desk R ρ) α := fun d =>
  let (a, registry) := act d.registry
  (a, { d with registry := registry })

instance [Log.Journal ρ] : Log.Journal (Desk R ρ) where
  threshold d := Log.Journal.threshold d.rest
  add r d := { d with rest := Log.Journal.add r d.rest }

variable [Log.Journal ρ]

/-- A runner for settings. -/
def resolve (build : Llm → Except Failure R) (config : Llm) :
    StateM (Desk R ρ) (Except Failure R) := do
  let registry := (← get).registry
  if registry.isActive && (registry.current? config).isNone then
    Log.note .debug "provider" "Provider settings changed; rebuilding runner"
  let build : Llm → Id (Except Failure R) := build
  onRegistry (Registry.resolve build config)

/-- Report that the runner is dropped. -/
def noteReset : StateM (Desk R ρ) Unit :=
  Log.note .debug "provider" "Provider configuration changed; resetting runner"

/-- Tell of changed keys. -/
def notify (keys : List String) : StateM (Desk R ρ) Bool := do
  if keys.any Registry.concerns then noteReset
  onRegistry (Registry.notify keys)

/-- How many settings were loaded. -/
def readings : StateM (Desk R ρ) Nat := fun d => (d.registry.readings, d)

/-- Tell of loaded settings. -/
def observe (config : Llm) : StateM (Desk R ρ) Bool := do
  if (← get).registry.differs config then noteReset
  onRegistry (Registry.observe config)

end Desk

end Scaffold.Provider
