import Scaffold.Generation.Requester
import Scaffold.Orchestration.Planning

/-!
# Running a prompt

A template becomes a prompt, the prompt a plan of files, and the selected files are generated
(`Bench.runPrompt`). Targets that are given are generated without a plan.
-/

namespace Scaffold.Orchestration
open Scaffold.Workspace Scaffold.Provider

/-- What to run: a template with what fills it, and which files to generate. -/
structure PromptTask where
  path : String
  template : String
  picks : Nat → Template.Selection := fun _ => .absent
  values : Template.Values := []
  select : Plan.Selector := selectAll
  /-- the files, if none are to be planned -/
  targets : Option (List String) := none
  /-- whether files are overwritten, if the settings do not decide it -/
  overwrite : Option Bool := none

/-- What a run came to. -/
structure PromptOutcome where
  prompt : String
  plan : PlanOutcome
  targets : List String := []
  result : Generation.Outcome := .empty

section

variable {ρ : Type} [Log.Journal ρ]

/-- The first line of a prompt, cut after 40 characters. -/
def headline (prompt : String) : String :=
  String.ofList ((prompt.toList.takeWhile (· != '\n')).take 40)

/-- Ask for a plan of the files of a prompt. -/
def Bench.planFiles (b : Bench ρ) (settings : Config.Settings) (prompt : String)
    (summary : Summary) : Task ρ PlanOutcome := do
  report .info s!"Planning files for prompt {Text.quoted (headline prompt)}"
  let plan ← b.requestPlan settings prompt summary [.directory, .file]
  return { plan with items := Plan.restrict [.file] plan.items }

/-- Who writes the content of files: a runner, or no one if there is none to be had. -/
def Bench.contentProvider (b : Bench ρ) (settings : Config.Settings) (summary : Summary) :
    Task ρ (Generation.ContentProvider (RunnerDesk ρ)) := do
  match ← onDesk (b.findRunner settings) with
  | .ok runner =>
    return fun prompt all path => Desk.onRest (Generation.askRunner runner summary prompt all path)
  | .error f =>
    if f.isDomain then
      report .warning
        s!"Provider unavailable; files will receive fallback content: {f.message}"
      return fun _ _ _ => return .error (.content f.message)
    else throw f

/-- Who hears of progress, seen from the desk. -/
def Bench.deskProgress (b : Bench ρ) : Option (Generation.Progress (RunnerDesk ρ)) :=
  b.progress.map fun hear done total message => Desk.onRest (hear done total message)

/-- Generate files for a prompt. -/
def Bench.generate (b : Bench ρ) (settings : Config.Settings) (fs : FileSystem Node)
    (summary : Summary) (prompt : String) (targets : List String) (overwrite : Option Bool) :
    Task ρ Generation.Outcome := do
  let provider ← b.contentProvider settings summary
  ExceptT.mk <|
    Generation.generate fs provider b.deskProgress prompt targets
      (overwrite.getD settings.generation.overwrite)

/-- Run a prompt. -/
def Bench.runPrompt (b : Bench ρ) (t : PromptTask) : Task ρ PromptOutcome := do
  let root ← b.root t.path
  let settings ← b.settings root
  let fs := b.fileSystem root
  let prompt ← b.prompt settings t.template t.picks t.values
  let summary ← summarizeFor fs settings
  match t.targets with
  | some given =>
    let targets ← give (Plan.dedupe given)
    report .info s!"Generating {targets.length} explicit path(s)"
    let result ← b.generate settings fs summary prompt targets t.overwrite
    return { prompt, plan := { items := [] }, targets, result }
  | none =>
    let plan ← b.planFiles settings prompt summary
    if plan.items.isEmpty then
      report .info "No files were proposed for this prompt"
      return { prompt, plan }
    else
      let targets ← give (Plan.dedupe (t.select plan.items))
      let result ← b.generate settings fs summary prompt targets t.overwrite
      return { prompt, plan, targets, result }

end

end Scaffold.Orchestration
