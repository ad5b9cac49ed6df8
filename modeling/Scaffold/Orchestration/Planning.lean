import Scaffold.Fallback
import Scaffold.Orchestration.Bench
import Scaffold.Orchestration.Materialize
import Scaffold.Plan.Prompt
import Scaffold.Reply.Extract

/-!
# Planning

A plan is asked of a runner; when that fails, a plan that is always the same stands in for it
(`Bench.requestPlan`). A plan can be looked at (`Bench.preview`) or made (`Bench.makePaths`).
-/

namespace Scaffold.Orchestration
open Scaffold.Workspace Scaffold.Provider

/-- A plan, and whether and why it stands in for another one. -/
structure PlanOutcome where
  items : List Plan.Item
  fallback : Bool := false
  reason : Option String := none
deriving Repr, DecidableEq

/-- A plan, and what became of its selected items. -/
structure PathsOutcome where
  plan : PlanOutcome
  made : Made := .empty
deriving Repr, DecidableEq

/-- The items of a reply; those that are left out are reported. -/
def planOf {σ : Type} [Log.Journal σ] (reply : Json) : StateM σ (List Plan.Item) := do
  (Plan.dropped reply).forM fun f =>
    Log.note .debug "planning" s!"Dropping plan candidate: {f.message}"
  return Plan.build reply

section

variable {ρ : Type} [Log.Journal ρ]

/-- The value of a reply to a request for a plan. -/
def planValue (reply : Except Failure Reply) : Except Failure Json := do
  Reply.extractJson (← reply).display

/-- Report a failed request for a plan, as an error where everything is reported. -/
def noteFailedPlan (f : Failure) : Task ρ Unit := do
  let level := if ← ExceptT.lift (Log.isEnabled .debug) then Log.Level.error else .warning
  report level s!"Path plan request failed; using fallback plan: {f.message}"

/-- Ask for a plan of some kinds. A failure of a run's stages makes the fallback plan stand in;
others end the run. -/
def Bench.requestPlan (b : Bench ρ) (settings : Config.Settings) (instructions : String)
    (summary : Summary) (kinds : List Plan.Kind) : Task ρ PlanOutcome := do
  let prompts := Plan.planPrompts instructions summary kinds
  let reply ← onDesk (b.ask settings prompts.user prompts.system true)
  match planValue reply with
  | .ok v =>
    let items := Plan.restrict kinds (← ExceptT.lift (planOf v))
    report .info s!"Plan contains {items.length} path(s)"
    return { items }
  | .error f =>
    if f.isRuntime then
      noteFailedPlan f
      let items := Plan.restrict kinds (← ExceptT.lift (planOf Fallback.plan))
      report .info s!"Plan contains {items.length} path(s) (fallback)"
      return { items, fallback := true, reason := some f.message }
    else throw f

/-- Plan paths below a root for instructions, which must not be blank. -/
def Bench.planPaths (b : Bench ρ) (root : Location) (fs : FileSystem Node) (instructions : String)
    (kinds : Option (List Plan.Kind)) : Task ρ PlanOutcome := do
  if Text.isBlankText instructions then throw (.general "No instructions provided")
  report .info s!"Planning paths for {root.text}"
  let settings ← b.settings root
  let summary ← summarizeFor fs settings
  b.requestPlan settings (Text.strip instructions) summary (kinds.getD settings.generation.kinds)

/-- The plan for instructions. -/
def Bench.preview (b : Bench ρ) (path instructions : String) (kinds : Option (List Plan.Kind)) :
    Task ρ PlanOutcome := do
  let root ← b.root path
  b.planPaths root (b.fileSystem root) instructions kinds

/-- Every item. -/
def selectAll : Plan.Selector := Plan.paths

/-- Plan paths for instructions, and make those that are selected. -/
def Bench.makePaths (b : Bench ρ) (path instructions : String) (kinds : Option (List Plan.Kind))
    (select : Plan.Selector) : Task ρ PathsOutcome := do
  let root ← b.root path
  let fs := b.fileSystem root
  let plan ← b.planPaths root fs instructions kinds
  if plan.items.isEmpty then
    report .info "The response did not include any paths to create"
    return { plan }
  else
    let chosen := select plan.items
    let selected := plan.items.filter fun item => chosen.contains item.path
    if selected.isEmpty then
      report .info "No paths selected"
      return { plan }
    else
      let made ← ExceptT.mk (materialize fs selected)
      return { plan, made }

end

end Scaffold.Orchestration
