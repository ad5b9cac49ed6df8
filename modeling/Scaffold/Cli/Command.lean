import Scaffold.Cli.Reading
import Scaffold.Log.Console
import Scaffold.Plan.Path

/-!
# The commands

The grammar of each command, and the command that the words of a command line stand for
(`Invocation.read`).
-/

namespace Scaffold.Cli
open Scaffold.Plan

/-- Where a template's text comes from. -/
inductive Source
  | text (s : String)
  /-- the name or identifier of a stored template -/
  | stored (key : String)
  | file (path : String)
deriving Repr, DecidableEq

/-- What is done with stored templates. -/
inductive TemplateCommand
  | list
  | display (key : String)
  | add (name description : String) (content : Source)
  | update (key : String) (name description : Option String) (content : Option Source)
  | delete (keys : List String)
  | duplicate (key : String) (name : Option String)
  | search (term : String)
deriving Repr, DecidableEq

/-- What a prompt is run with. -/
structure RunCommand where
  source : Source
  only : List String
  values : List String
  choices : List String
  paths : List String
  overwrite : Option Bool
deriving Repr, DecidableEq

/-- A command. -/
inductive Command
  | plan (root instructions : String) (only : List String) (kinds : List Kind) (dryRun : Bool)
  | run (root : String) (options : RunCommand)
  | template (root : String) (store : Option String) (command : TemplateCommand)
  | models (root : String)
  | serve (host : String) (port : Int)
deriving Repr, DecidableEq

/-- The name of a command. -/
def Command.name : Command → String
  | plan .. => "plan"
  | run .. => "run"
  | template .. => "template"
  | models _ => "models"
  | serve .. => "serve"

/-- A command and how much it reports. -/
structure Invocation where
  flags : Log.Flags
  command : Command

/-- The name of the program. -/
def program : String := "pathgen"

/-- An option that takes a text. -/
def valueSwitch (name key : String) : Switch := ⟨[name], key, .value, none, false⟩

/-- An option that stands for itself. -/
def flagSwitch (names : List String) (key : String) : Switch := ⟨names, key, .flag, none, false⟩

/-- Help. -/
def helpSwitch : Switch := ⟨["-h", "--help"], "help", .help, none, false⟩

/-- How much is reported. -/
def flagSwitches : List Switch :=
  [flagSwitch ["-v", "--verbose"] "verbose", flagSwitch ["-q", "--quiet"] "quiet"]

/-- The root of a workspace. -/
def rootSwitch : Switch := valueSwitch "--root" "root"

/-- Patterns for paths of a plan. -/
def onlySwitch : Switch := valueSwitch "--only" "only"

/-- A file with a text. -/
def fileSwitch : Switch := valueSwitch "--file" "file"

/-- The content of a template. -/
def contentSwitch : Switch := valueSwitch "--content" "content"

/-- The name of a template. -/
def nameSwitch : Switch := valueSwitch "--name" "name"

/-- The description of a template. -/
def descriptionSwitch : Switch := valueSwitch "--description" "description"

/-- All commands. -/
def grammar : Grammar where
  program := program
  switches := helpSwitch :: flagSwitches
  operand := some ⟨"command", .command ["plan", "run", "template", "models", "serve"]⟩

/-- Planning. -/
def planGrammar : Grammar where
  program := program ++ " plan"
  switches := helpSwitch :: flagSwitches ++
    [rootSwitch, onlySwitch, ⟨["--kind"], "kind", .value, some ["file", "directory"], false⟩,
      flagSwitch ["--dry-run"] "dry_run"]
  operand := some ⟨"instructions", .one⟩

/-- Where a prompt comes from. -/
def sourceSwitches : List Switch :=
  [valueSwitch "--prompt" "prompt", valueSwitch "--template" "template", fileSwitch]

/-- Whether files are overwritten. -/
def overwriteSwitches : List Switch :=
  [flagSwitch ["--overwrite"] "overwrite", flagSwitch ["--no-overwrite"] "no_overwrite"]

/-- Running a prompt. -/
def runGrammar : Grammar where
  program := program ++ " run"
  switches := helpSwitch :: flagSwitches ++ [rootSwitch, onlySwitch] ++ sourceSwitches ++
    [valueSwitch "--set" "values", valueSwitch "--choice" "choice", valueSwitch "--path" "paths"] ++
    overwriteSwitches
  groups := [⟨sourceSwitches, true⟩, ⟨overwriteSwitches, false⟩]

/-- All commands for stored templates. -/
def templateGrammar : Grammar where
  program := program ++ " template"
  switches := helpSwitch :: flagSwitches ++ [rootSwitch, valueSwitch "--store" "store"]
  operand := some ⟨"template_command",
    .command ["list", "show", "add", "update", "delete", "duplicate", "search"]⟩

/-- One of the commands for stored templates. -/
def templateCommandGrammar (name : String) (switches : List Switch) (operand : Option Operand)
    (groups : List Group) : Grammar :=
  ⟨templateGrammar.program ++ " " ++ name, helpSwitch :: switches, operand, groups⟩

/-- Listing models. -/
def modelsGrammar : Grammar where
  program := program ++ " models"
  switches := helpSwitch :: flagSwitches ++ [rootSwitch]

/-- Serving requests. -/
def serveGrammar : Grammar where
  program := program ++ " serve"
  switches := helpSwitch :: flagSwitches ++
    [valueSwitch "--host" "host", ⟨["--port"], "port", .value, none, true⟩]

/-- The root that was named, else the current directory. -/
def rootIn (f : Findings) : String := (f.last? "root").getD "."

/-- The content that was given: a file counts before a text. -/
def contentIn (f : Findings) : Option Source :=
  match f.last? "file", f.last? "content" with
  | some path, _ => some (.file path)
  | none, some s => some (.text s)
  | none, none => none

/-- The prompt that was given: a text counts before a file, and a file before a stored one. -/
def sourceIn (f : Findings) : Source :=
  match f.last? "prompt", f.last? "file" with
  | some s, _ => .text s
  | none, some path => .file path
  | none, none => .stored ((f.last? "template").getD "")

/-- The text of an operand. -/
def operandIn (f : Findings) (key : String) : String := (f.last? key).getD ""

/-- Read a command for stored templates, and the words that are of no use. -/
def readTemplateCommand (name : String) (words : List String) :
    Except Stop (TemplateCommand × List String) := do
  let content := [contentSwitch, fileSwitch]
  let key : Operand := ⟨"key", .one⟩
  let read (switches : List Switch) (operand : Option Operand) (groups : List Group) :=
    (templateCommandGrammar name switches operand groups).read words
  match name with
  | "list" =>
    let f ← read [] none []
    return (.list, f.extras)
  | "show" =>
    let f ← read [] (some key) []
    return (.display (operandIn f "key"), f.extras)
  | "add" =>
    let f ← read (descriptionSwitch :: content) (some ⟨"name", .one⟩) [⟨content, true⟩]
    return (.add (operandIn f "name") ((f.last? "description").getD "")
      ((contentIn f).getD (.text "")), f.extras)
  | "update" =>
    let f ← read (nameSwitch :: descriptionSwitch :: content) (some key) [⟨content, false⟩]
    return (.update (operandIn f "key") (f.last? "name") (f.last? "description") (contentIn f),
      f.extras)
  | "delete" =>
    let f ← read [] (some ⟨"keys", .many⟩) []
    return (.delete (f.all "keys"), f.extras)
  | "duplicate" =>
    let f ← read [nameSwitch] (some key) []
    return (.duplicate (operandIn f "key") (f.last? "name"), f.extras)
  | _ =>
    let f ← read [] (some ⟨"term", .one⟩) []
    return (.search (operandIn f "term"), f.extras)

/-- What flags say, together with what others said before. -/
def flagsIn (before : Log.Flags) (f : Findings) : Log.Flags :=
  ⟨before.verbose || f.has "verbose", before.quiet || f.has "quiet"⟩

/-- The last of the flags for overwriting that was used. -/
def overwriteIn (f : Findings) : Option Bool :=
  if f.has "overwrite" then some true else if f.has "no_overwrite" then some false else none

/-- Read a command of a name, and the words that are of no use. -/
def readCommand (flags : Log.Flags) (name : String) (words : List String) :
    Except Stop (Invocation × List String) := do
  match name with
  | "plan" =>
    let f ← planGrammar.read words
    return (⟨flagsIn flags f, .plan (rootIn f) (operandIn f "instructions") (f.all "only")
      ((f.all "kind").filterMap Kind.ofName?) (f.has "dry_run")⟩, f.extras)
  | "run" =>
    let f ← runGrammar.read words
    return (⟨flagsIn flags f, .run (rootIn f)
      ⟨sourceIn f, f.all "only", f.all "values", f.all "choice", f.all "paths", overwriteIn f⟩⟩,
      f.extras)
  | "template" =>
    let f ← templateGrammar.read words
    let words := f.all "template_command"
    let (command, extras) ← readTemplateCommand (words.headD "") (words.drop 1)
    return (⟨flagsIn flags f, .template (rootIn f) (f.last? "store") command⟩, f.extras ++ extras)
  | "models" =>
    let f ← modelsGrammar.read words
    return (⟨flagsIn flags f, .models (rootIn f)⟩, f.extras)
  | _ =>
    let f ← serveGrammar.read words
    return (⟨flagsIn flags f, .serve ((f.last? "host").getD "127.0.0.1")
      (((f.last? "port").bind Decimal.int?).getD 8000)⟩, f.extras)

/-- The command that words stand for. Words of no use are a misuse. -/
def Invocation.read (words : List String) : Except Stop Invocation := do
  let f ← grammar.read words
  let words := f.all "command"
  let (invocation, extras) ← readCommand (flagsIn {} f) (words.headD "") (words.drop 1)
  let extras := f.extras ++ extras
  if extras.isEmpty then return invocation
  else throw (.misuse program (.unknown extras))

end Scaffold.Cli
