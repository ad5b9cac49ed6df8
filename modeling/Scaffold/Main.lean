import Scaffold.Cli.Places
import Scaffold.Cli.Run
import Scaffold.Workspace.Changes
import Scaffold.Yaml.Load
import Std.Time.DateTime.Timestamp

/-!
# The program

`main` carries out a command line: it reads the places that the command is about, lets `execute`
act on them in memory, and writes what changed. There is no network here; the provider answers that
it cannot be reached.
-/

namespace Scaffold
open Workspace

/-- What a run of the program has besides files. -/
structure Session where
  console : Log.Console
  /-- microseconds since the start of 1970 -/
  time : Int
  dice : StdGen

namespace Session

instance : Log.Terminal Session where
  threshold s := s.console.threshold
  add r s := { s with console := s.console.add r }
  console := Session.console
  withConsole c s := { s with console := c }

instance : Library.Clock Session where
  now := return (← get).time
  chance := modifyGet fun s =>
    let (n, dice) := randNat s.dice 0 4294967295
    (n, { s with dice := dice })

end Session

/-- A directory entry at a place. -/
def entryAt (l : Location) : IO.FS.DirEntry := ⟨⟨l.parent.text⟩, l.name⟩

/-- Read what is at a place, with all that is below. -/
partial def readPlace (e : IO.FS.DirEntry) : IO (Option Node) := do
  match (← e.path.symlinkMetadata).type with
  | .dir =>
    let entries ← (← e.path.readDir).toList.filterMapM fun inner => do
      return (← readPlace inner).map fun n => (inner.fileName, n)
    return some (.directory entries)
  | .file => return some (.file (← IO.FS.readBinFile e.path))
  | .symlink =>
    let target ← try some <$> IO.FS.realPath e.path catch _ => pure none
    return target.map fun t => .link t.toString
  | .other => return none

/-- A tree with a place of the file system, if anything is there. -/
def withPlace (top : Node) (l : Location) : IO Node := do
  let found ← try readPlace (entryAt l) catch _ => pure none
  return match found with
    | some n => (top.ensureDirectories l.parent).1.put l.names n
    | none => top

/-- Make what changed. -/
def make : Change → IO Unit
  | .directory l => IO.FS.createDirAll l.text
  | .file l content => IO.FS.writeBinFile l.text content

/-- The environment variables that mean something. -/
def environmentNames : List String :=
  ["PATHGEN_LLM_MODEL", "OPENAI_MODEL", "PATHGEN_LLM_BASE_URL", "OPENAI_BASE_URL",
    "PATHGEN_LLM_API_KEY", "OPENAI_API_KEY", "PATHGEN_LOG_LEVEL", "PATHGEN_LOG_FILE"]

/-- The environment, as far as it means something. -/
def readEnvironment : IO Provider.Environment :=
  environmentNames.filterMapM fun name => do
    return (← IO.getEnv name).map fun value => (name, value)

/-- The setting of a run of the program. -/
def settingAt (here : Location) (environment : Provider.Environment) : Cli.Setting Session where
  here := here
  loader := Yaml.load
  environment := environment
  transport _ := return .unreachable "no network"
  serve _ _ := return .error (.systemText "no network")

/-- The files that a command line is about. -/
def readFiles (here : Location) (environment : Provider.Environment) (words : List String) :
    IO Node := do
  let named := Cli.placesOf words ++ (environment.lookup "PATHGEN_LOG_FILE").toList
  let top := (Node.empty.ensureDirectories here).1
  let top ← (named.map fun path => Log.lexical here (Location.parse path)).foldlM withPlace top
  match Cli.storePlace? Yaml.load here words top with
  | some l => withPlace top (Log.lexical here l)
  | none => return top

/-- The state that a run of the program starts with. -/
def startSession : IO Session := do
  let time := (← Std.Time.Timestamp.now).toNanosecondsSinceUnixEpoch.val / 1000
  let dice := mkStdGen (← IO.rand 0 2147483647)
  return { console := { stamp := Library.dateText time }, time, dice }

end Scaffold

open Scaffold Workspace in
/-- Carry out a command line. -/
def main (words : List String) : IO UInt32 := do
  let here := Location.parse (← IO.currentDir).toString
  let environment ← readEnvironment
  let top ← readFiles here environment words
  let floor : Orchestration.Floor Session := ⟨top, ⟨.empty, ← startSession⟩⟩
  let (code, floor) := ((settingAt here environment).execute words).run floor
  ((Node.changes [] (some top) floor.files).forM make : IO Unit)
  IO.print floor.rest.rest.console.out
  IO.eprint floor.rest.rest.console.err
  match code with
  | .ok n => return n.toUInt32
  | .error f =>
    IO.eprintln f.message
    return 1
