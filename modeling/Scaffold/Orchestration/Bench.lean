import Scaffold.Config.Load
import Scaffold.Generation.Run
import Scaffold.Provider.Desk
import Scaffold.Template.Fill

/-!
# The bench

What the runs of a program share: where paths are seen from, what reads settings, how a workspace is
opened, where runners come from and who hears of progress (`Bench`). Here are the steps that every
run starts with: finding its root, loading its settings and getting a runner.
-/

namespace Scaffold.Orchestration
open Scaffold.Workspace Scaffold.Provider

/-- The system text of a request for an AI input. -/
def aiSystem : String :=
  "You are an assistant that answers questions and drafts content exactly as requested. " ++
    "Reply with the requested text only."

/-- What runs share. -/
structure Bench (ρ : Type) where
  here : Location
  loader : Config.Loader
  fileSystem : Location → FileSystem Node
  /-- the one runner of all runs, if it is given; else the registry keeps one -/
  runner : Option (Runner ρ)
  build : Config.Llm → Except Failure (Runner ρ)
  progress : Option (Generation.Progress ρ)

/-- The registry of runners, and what they act on. -/
abbrev RunnerDesk (ρ : Type) := Desk (Runner ρ) ρ

/-- What a run acts on. -/
abbrev Floor (ρ : Type) := World Node (RunnerDesk ρ)

/-- A run, or a step of one. -/
abbrev Task (ρ : Type) := ExceptT Failure (StateM (Floor ρ))

section

variable {ρ α : Type} [Log.Journal ρ]

/-- Report something. -/
def report (level : Log.Level) (message : String) : Task ρ Unit :=
  ExceptT.lift (Log.note level "orchestrator" message)

/-- Act on the desk. -/
def onDesk (act : StateM (RunnerDesk ρ) α) : Task ρ α :=
  ExceptT.lift (World.onRest act)

/-- A result as a step. -/
def give (r : Except Failure α) : Task ρ α := ExceptT.mk (return r)

/-- The root that a path names, with links replaced. The home directory is in the path already,
where a `~` stood for it. -/
def Bench.root (b : Bench ρ) (path : String) : Task ρ Location := do
  let top := (← get).files
  give (top.resolve (b.here.join (Location.parse path)).names)

/-- The settings of a root. Refused ones count as missing; other failures end the run. -/
def Bench.readSettings (b : Bench ρ) (root : Location) : Task ρ Config.Settings := do
  match Config.load b.loader b.here root (← get).files with
  | .ok settings => return settings
  | .error (.config fault) =>
    report .warning s!"Ignoring invalid configuration: {fault.message}"
    return { root }
  | .error f => throw f

/-- The settings of a root; the registry hears of them. -/
def Bench.settings (b : Bench ρ) (root : Location) : Task ρ Config.Settings := do
  let settings ← b.readSettings root
  let settings := settings.readAt (← onDesk Desk.readings)
  let _ ← onDesk (Desk.observe (settings.llm.getD {}))
  return settings

/-- A runner for settings. -/
def Bench.findRunner (b : Bench ρ) (settings : Config.Settings) :
    StateM (RunnerDesk ρ) (Except Failure (Runner ρ)) :=
  match b.runner with
  | some runner => return .ok runner
  | none => Desk.resolve b.build (settings.llm.getD {})

/-- Ask a runner, which is found first. -/
def Bench.ask (b : Bench ρ) (settings : Config.Settings) (prompt system : String)
    (jsonMode : Bool) : StateM (RunnerDesk ρ) (Except Failure Reply) := do
  match ← b.findRunner settings with
  | .error f => return .error f
  | .ok runner => Desk.onRest (runner.run prompt (some system) jsonMode)

/-- The prompt of a template: picks and answers fill its choices, values its names. -/
def Bench.prompt (b : Bench ρ) (settings : Config.Settings) (template : String)
    (picks : Nat → Template.Selection) (values : Template.Values) : Task ρ String := do
  let selections ← onDesk <|
    Template.collectSelections (Template.choiceTokens template) picks
      (some fun question => b.ask settings question aiSystem false)
  return Template.resolve template selections values

/-- The summary of a workspace, as far as the settings show it. -/
def summarizeFor (fs : FileSystem Node) (settings : Config.Settings) : Task ρ Summary := do
  let g := settings.generation
  let summary ← ExceptT.mk (summarize fs g.existingLimit g.exclude)
  report .debug
    s!"Workspace summary: {summary.directories.length} directories, {summary.files.length} files"
  return summary

end

end Scaffold.Orchestration
