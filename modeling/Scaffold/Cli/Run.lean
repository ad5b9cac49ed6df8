import Scaffold.Cli.Command
import Scaffold.Library.Store
import Scaffold.Orchestration.PromptRun

/-!
# Carrying out commands

`execute` carries out a command line on the files of a workspace: it prints on the console, and its
result is the code that the program ends with, or a failure that no command expects.
-/

namespace Scaffold.Cli
open Scaffold.Workspace Scaffold.Provider Scaffold.Orchestration

/-- What commands need of the world around. -/
structure Setting (ρ : Type) where
  here : Location
  loader : Config.Loader
  environment : Environment
  transport : Transport ρ
  /-- serve requests at a host's port -/
  serve : String → Int → StateM ρ (Except Failure Unit)

/-- Why a command is not carried out. -/
inductive Refusal
  | misuse (fault : Misuse)
  | failure (f : Failure)

/-- A command, or a step of one. -/
abbrev Job (ρ : Type) := ExceptT Refusal (StateM (Floor ρ))

instance {R ρ : Type} [Log.Terminal ρ] : Log.Terminal (Desk R ρ) where
  console d := Log.Terminal.console d.rest
  withConsole c d := { d with rest := Log.Terminal.withConsole c d.rest }

instance {R ρ : Type} [Library.Clock ρ] : Library.Clock (Desk R ρ) where
  now := Desk.onRest Library.Clock.now
  chance := Desk.onRest Library.Clock.chance

section

variable {ρ α : Type} [Log.Terminal ρ]

/-- A step that may fail. -/
def task (t : StateM (Floor ρ) (Except Failure α)) : Job ρ α :=
  ExceptT.mk ((Except.mapError Refusal.failure) <$> t)

/-- A result as a step. -/
def result (r : Except Failure α) : Job ρ α := ExceptT.mk (return r.mapError .failure)

/-- Words that may be misused, as a step. -/
def given (r : Except Misuse α) : Job ρ α := ExceptT.mk (return r.mapError .misuse)

/-- Print a line. -/
def say (line : String) : Job ρ Unit :=
  ExceptT.lift (World.onRest (Log.onConsole (Log.Console.say line)))

/-- The settings of a root, in which the home directory stands where a `~` stood. -/
def Setting.load (s : Setting ρ) (root : String) : Job ρ Config.Settings := do
  result (Config.load s.loader s.here (Location.parse root) (← get).files)

/-- The text of a file. -/
def Setting.readFile (s : Setting ρ) (path : String) : Job ρ String := do
  result (readText s.here (Location.parse path) (← get).files)

/-- What runs share. -/
def Setting.bench (s : Setting ρ) (progress : Option (Generation.Progress ρ)) : Bench ρ where
  here := s.here
  loader := s.loader
  fileSystem := FileSystem.local
  runner := none
  build c := Runner.overWeb s.transport s.environment (.ofConfig c)
  progress := progress

/-- An item of a plan: its kind in nine columns, and its path. -/
def planLine (item : Plan.Item) : String :=
  let kind := item.kind.name
  let padding := String.ofList (List.replicate (9 - kind.length) ' ')
  s!"{kind}{padding} {item.path}" ++ if item.kind == .directory then "/" else ""

/-- Show a plan. -/
def showPlan (plan : PlanOutcome) : Job ρ Unit := do
  if plan.fallback then say "Provider unavailable; showing the fallback plan"
  if plan.items.isEmpty then say "The plan is empty"
  plan.items.forM fun item => say (planLine item)

/-- A path that failed, and why. -/
def failedLine (f : Generation.FailedPath) : String := s!"failed {f.path}: {f.reason}"

/-- That a plan stands in for another one. -/
def sayFallback (plan : PlanOutcome) : Job ρ Unit := do
  if plan.fallback then say "Provider unavailable; used the fallback plan"

/-- Make the paths of a plan. -/
def Setting.makePaths (s : Setting ρ) (root instructions : String) (only : List String)
    (kinds : Option (List Plan.Kind)) : Job ρ Unit := do
  let outcome ← task ((s.bench none).makePaths root instructions kinds (Plan.selectMatching only))
  sayFallback outcome.plan
  outcome.made.created.forM fun path => say s!"created {path}"
  outcome.made.failed.forM fun f => say (failedLine f)
  if outcome.made.created.isEmpty && outcome.made.failed.isEmpty then say "Nothing created"

/-- Plan paths. -/
def Setting.plan (s : Setting ρ) (root instructions : String) (only : List String)
    (kinds : List Plan.Kind) (dryRun : Bool) : Job ρ Unit := do
  let kinds := if kinds.isEmpty then none else some kinds
  if dryRun then showPlan (← task ((s.bench none).preview root instructions kinds))
  else s.makePaths root instructions only kinds

/-- A word with an equals sign: what is before it, and what is behind it. -/
def assignment? (word : String) : Option (String × String) :=
  match splitValue word with
  | (name, some value) => some (name, value)
  | (_, none) => none

/-- The values of words; of two for one name the later one counts. -/
def readValues (words : List String) : Except Misuse Template.Values := do
  let values ← words.mapM fun word =>
    match assignment? word with
    | some (name, value) =>
      if (Text.strip name).isEmpty then .error (.notAssignment word)
      else .ok (Text.strip name, value)
    | none => .error (.notAssignment word)
  return values.reverse

/-- The parts of a text between commas that are not blank, trimmed. -/
def parts (text : String) : List String :=
  ((Text.splitOn ',' text.toList).map Text.trim).filter (!·.isEmpty) |>.map String.ofList

/-- The place and the selection that a word is for. -/
def readChoice (tokens : List Template.Token) (word : String) :
    Except Misuse (Nat × Template.Selection) :=
  let fault : Misuse := .notChoice word tokens.length
  match assignment? word with
  | none => .error fault
  | some (place, value) =>
    match Decimal.int? place with
    | none => .error fault
    | some i =>
      match if 0 ≤ i then tokens[i.toNat]? else none with
      | none => .error fault
      | some token =>
        .ok (i.toNat, if token.placeholder.isRadio then .picks (parts value) else .text value)

/-- The selections of words; of two for one place the later one counts. -/
def readChoices (template : String) (words : List String) :
    Except Misuse (Nat → Template.Selection) := do
  let chosen ← words.mapM (readChoice (Template.choiceTokens template))
  return fun i => (chosen.reverse.lookup i).getD .absent

/-- Open the template store of a file. -/
def Setting.openStore (s : Setting ρ) (l : Location) : Job ρ Library.Store :=
  task (Library.Store.load s.here l)

/-- The template that a prompt is made from. -/
def Setting.template (s : Setting ρ) (root : String) : Source → Job ρ String
  | .text text => return text
  | .file path => s.readFile path
  | .stored key => do
    let store ← s.openStore (← s.load root).storeLocation
    return (← result (Library.fetch store.entries key)).content

/-- Print what became of a target. -/
def sayProgress : Generation.Progress ρ := fun done total message =>
  Log.onConsole (Log.Console.say s!"[{done}/{total}] {message}")

/-- Run a prompt. -/
def Setting.run (s : Setting ρ) (root : String) (o : RunCommand) : Job ρ Unit := do
  let template ← s.template root o.source
  let picks ← given (readChoices template o.choices)
  let values ← given (readValues o.values)
  let outcome ← task <| (s.bench (some sayProgress)).runPrompt
    { path := root, template, picks, values
      select := Plan.selectMatching o.only
      targets := if o.paths.isEmpty then none else some o.paths
      overwrite := o.overwrite }
  sayFallback outcome.plan
  if outcome.targets.isEmpty then say "No files to generate"
  else
    outcome.result.failed.forM fun f => say (failedLine f)
    let fallbacks := outcome.result.fallbacks.length
    if fallbacks != 0 then say s!"fallback content written for {fallbacks} file(s)"
    say s!"Done: {outcome.result.summary}"

/-- How much of a template a listing shows. -/
def listingLength : Int := 60

/-- A text on one line. -/
def onOneLine (text : String) : String :=
  text.map fun c => if c == '\n' then ' ' else c

/-- List a template. -/
def sayEntry (e : Library.Entry) : Job ρ Unit := do
  say (s!"{e.id}  {e.name}" ++ if e.description.isEmpty then "" else s!" - {e.description}")
  say (onOneLine s!"    {e.preview listingLength}")

/-- List templates. -/
def sayEntries (none : String) (entries : List Library.Entry) : Job ρ Unit := do
  if entries.isEmpty then say none
  entries.forM sayEntry

/-- A text that was given or stands in a file. -/
def Setting.content (s : Setting ρ) : Source → Job ρ String
  | .text text => return text
  | .file path => s.readFile path
  | .stored key => return key

/-- Use the template store. -/
def Setting.useStore [Library.Clock ρ] (s : Setting ρ) (store : Library.Store) :
    TemplateCommand → Job ρ Unit
  | .list => sayEntries "No templates stored" store.entries
  | .display key => do
    let e ← result (Library.fetch store.entries key)
    say s!"# {e.name}"
    if !e.description.isEmpty then say e.description
    say e.content
  | .add name description content => do
    let content ← s.content content
    let e ← task (Prod.snd <$> store.create s.here name content description)
    say s!"Saved template {e.name} ({e.id})"
  | .update key name description content => do
    let content ← content.mapM s.content
    let e ← task (Prod.snd <$> store.update s.here key ⟨name, description, content⟩)
    say s!"Updated template {e.name}"
  | .delete keys => do
    let deleted ← task (Prod.snd <$> store.delete s.here keys)
    say s!"Deleted {deleted.length} template(s)"
  | .duplicate key name => do
    let e ← task (Prod.snd <$> store.duplicate s.here key name)
    say s!"Saved template {e.name} ({e.id})"
  | .search term => sayEntries "No matching templates" (Library.search store.entries term)

/-- List the models that the provider offers. -/
def Setting.models (s : Setting ρ) (root : String) : Job ρ Unit := do
  let settings ← s.load root
  let runner ← task (World.onRest ((s.bench none).findRunner settings))
  let models ← task (World.onRest (Desk.onRest (runner.listModels s.transport)))
  models.forM say

/-- Carry out a command. -/
def Setting.perform [Library.Clock ρ] (s : Setting ρ) : Command → Job ρ Unit
  | .plan root instructions only kinds dryRun => s.plan root instructions only kinds dryRun
  | .run root options => s.run root options
  | .template root file command => do
    let l ←
      match file with
      | some path => pure (Location.parse path)
      | none => do pure (← s.load root).storeLocation
    s.useStore (← s.openStore l) command
  | .models root => s.models root
  | .serve host port => task (World.onRest (Desk.onRest (s.serve host port)))

/-- The report on a failed command, for a failure that commands expect. -/
def failureText? (command : Command) (f : Failure) : Option String :=
  let text := s!"{program} {command.name} failed: {f.message}\n"
  match f with
  | .config _ => some text
  | f =>
    if f.isDomain then some text
    else if f.isSystem then some (text ++ "Run with --verbose for more details.\n")
    else none

/-- The report on a misuse. -/
def misuseText (name : String) (fault : Misuse) : String :=
  s!"{name}: error: {fault.message}\n"

/-- Print on the error output and end with a code. -/
def stopWith (code : Nat) (text : String) : StateM (Floor ρ) (Except Failure Nat) := do
  World.onRest (Log.onConsole (Log.Console.complain text))
  return .ok code

/-- Carry out a command that was read. -/
def Setting.invoke [Library.Clock ρ] (s : Setting ρ) (i : Invocation) :
    StateM (Floor ρ) (Except Failure Nat) := do
  let file := (s.environment.first? ["PATHGEN_LOG_FILE"]).map Location.parse
  match ← Log.setUp s.here i.flags (s.environment.lookup "PATHGEN_LOG_LEVEL") file with
  | .error f => return .error f
  | .ok () =>
    match ← s.perform i.command with
    | .ok () => return .ok 0
    | .error (.misuse fault) => stopWith 2 (misuseText program fault)
    | .error (.failure f) =>
      match failureText? i.command f with
      | some text => stopWith 1 text
      | none => return .error f

/-- Carry out a command line. -/
def Setting.execute [Library.Clock ρ] (s : Setting ρ) (words : List String) :
    StateM (Floor ρ) (Except Failure Nat) := do
  match Invocation.read words with
  | .error .help => return .ok 0
  | .error (.misuse name fault) => stopWith 2 (misuseText name fault)
  | .ok i =>
    let code ← s.invoke i
    Log.flush
    return code

end

end Scaffold.Cli
