import Scaffold.Log.Record
import Scaffold.Text.Blank
import Scaffold.Workspace.FileSystem
import Scaffold.Workspace.Text

/-!
# The console

Where the output of a program goes: its standard output, the line per report on its error output,
and a log file (`Console`). `setUp` chooses the level and opens the file; reports are kept for the
file until `flush` writes them.
-/

namespace Scaffold.Log
open Scaffold.Workspace

/-- The name that all loggers start with. -/
def rootName : String := "pathgen"

/-- The full name of a logger. -/
def Record.fullName (r : Record) : String :=
  if r.logger.isEmpty then rootName else rootName ++ "." ++ r.logger

/-- A report on the error output. -/
def Record.consoleLine (r : Record) : String :=
  s!"[{rootName}] {r.level.name} {r.message}\n"

/-- A report in a log file, behind a time. -/
def Record.fileLine (time : String) (r : Record) : String :=
  s!"{time} {r.level.name} {r.fullName}: {r.message}\n"

/-- The output of a program. -/
structure Console where
  /-- the rank that was asked for; zero asks for nothing -/
  level : Nat := 30
  /-- reports are shown on the error output -/
  attached : Bool := false
  /-- the log file -/
  file : Option Location := none
  /-- what stands before each line of the log file -/
  stamp : String := ""
  out : String := ""
  err : String := ""
  /-- reports that are not yet in the log file -/
  kept : List Record := []

namespace Console

/-- The least rank that is reported: warnings and worse where nothing is asked for. -/
def threshold (c : Console) : Nat :=
  if c.level == 0 then Level.warning.rank else c.level

/-- Report something, if its rank is high enough. -/
def add (r : Record) (c : Console) : Console :=
  if r.level.rank < c.threshold then c
  else
    { c with
      err := if c.attached then c.err ++ r.consoleLine else c.err
      kept := if c.file.isSome then c.kept ++ [r] else c.kept }

/-- A line on the standard output. -/
def say (line : String) (c : Console) : Console :=
  { c with out := c.out ++ line ++ "\n" }

/-- A text on the error output. -/
def complain (text : String) (c : Console) : Console :=
  { c with err := c.err ++ text }

end Console

/-- A state with a console. -/
class Terminal (ρ : Type) extends Journal ρ where
  console : ρ → Console
  withConsole : Console → ρ → ρ

/-- What the flags of a command say about reports. -/
structure Flags where
  verbose : Bool := false
  quiet : Bool := false

/-- A letter as a capital. Two letters beyond ASCII have a capital within it. -/
def capital (c : Char) : Char :=
  if c == 'ı' then 'I' else if c == 'ſ' then 'S' else c.toUpper

/-- The rank of a level's name. -/
def rankOf? (name : String) : Option Nat :=
  [("CRITICAL", 50), ("FATAL", 50), ("ERROR", 40), ("WARN", 30), ("WARNING", 30), ("INFO", 20),
    ("DEBUG", 10), ("NOTSET", 0)].lookup name

/-- The rank of a level's name in any case, with white space around. -/
def rankOfWord? (word : String) : Option Nat :=
  rankOf? (String.ofList ((Text.trim word.toList).map capital))

/-- The rank that is reported: flags first, then a name that is given, else that of information. -/
def resolveLevel (flags : Flags) (given : Option String) : Nat :=
  if flags.verbose then Level.debug.rank
  else if flags.quiet then Level.warning.rank
  else ((given.bind rankOfWord?).getD Level.info.rank)

/-- A location seen from a directory, without `..`. -/
def lexical (here l : Location) : Location :=
  let whole := here.join l
  { whole with names := Node.clean whole.names }

/-- The tree with a file to write to, new if there is none. -/
def openFile (l : Location) (top : Node) : Except Failure Node :=
  if Node.hasNul l.names then .error Node.nulFailure
  else
    match top.read l with
    | .ok _ => .ok top
    | .error .noEntry => (top.write l ByteArray.empty).mapError (systemFailure l)
    | .error cause => .error (systemFailure l cause)

/-- The tree with a text at the end of a file. -/
def appendText (l : Location) (text : String) (top : Node) : Node :=
  match top.read l with
  | .error _ => top
  | .ok content => (top.write l (content ++ text.toUTF8)).toOption.getD top

section

variable {ρ : Type} [Terminal ρ]

/-- Change the console. -/
def onConsole (change : Console → Console) : StateM ρ Unit :=
  modify fun w => Terminal.withConsole (change (Terminal.console w)) w

/-- Write what was kept to the log file. -/
def flush : StateM (World Node ρ) Unit := do
  let c := Terminal.console (← get).rest
  match c.file with
  | none => pure ()
  | some l =>
    let text := String.join (c.kept.map (Record.fileLine c.stamp))
    if !text.isEmpty then modify fun w => { w with files := appendText l text w.files }
    World.onRest (onConsole fun c => { c with kept := [] })

/-- Choose the level and the log file. A file that cannot be opened is a failure, with the level
chosen all the same. -/
def setUp (here : Here) (flags : Flags) (level : Option String) (file : Option Location) :
    StateM (World Node ρ) (Except Failure Unit) := do
  flush
  World.onRest <| onConsole fun c =>
    { c with level := resolveLevel flags level, attached := true, file := none }
  match file.map (lexical here) with
  | none => return .ok ()
  | some l =>
    match openFile l (← get).files with
    | .error f => return .error f
    | .ok top =>
      modify fun w => { w with files := top }
      World.onRest (onConsole fun c => { c with file := some l })
      return .ok ()

end

end Scaffold.Log
