import Scaffold.Config.Settings
import Scaffold.Workspace.Text
import Scaffold.Yaml.Fault

/-!
# Loading settings

Where the settings of a workspace are (`settingsLocation`), and what its file says (`load`). A
missing or blank file leaves everything as usual. What the text of a file means is for a `Loader` to
say, which the program chooses.
-/

namespace Scaffold.Config
open Scaffold.Workspace

/-- What gives the texts of settings their values. -/
abbrev Loader := String → Except Yaml.Fault Yaml.Value

/-- A fault in a text of settings, as a failure. -/
def failureOf (file : String) : Yaml.Fault → Failure
  | .malformed => .config (.malformed file)
  | .depth => .depth Yaml.Fault.depth.message
  | .beyondCharacters | .overflow => .overflow
  | .truth => .unlisted
  | .noNumber => .outOfText
  | .noDate => .unmatched
  | .dateType => .type Yaml.Fault.dateType.message
  | fault => .value fault.message

/-- The causes for which a path counts as leading nowhere. -/
def isAbsence : SystemCause → Bool
  | .noEntry | .notDirectory | .linkLoop => true
  | _ => false

/-- What is at a location, if anything. -/
def statIfThere (cwd : Here) (l : Location) (top : Node) : Except Failure (Option Node) :=
  if Node.hasNul l.names then .ok none
  else
    match top.stat (cwd.join l) with
    | .ok n => .ok (some n)
    | .error cause => if isAbsence cause then .ok none else .error (systemFailure l cause)

/-- The file of settings for a location: in it if it is a directory, else the location itself if it
has the file's name, else beside it. Links are followed. A name `~` is a name like any other:
whoever passes a location has put the home directory in its place. -/
def settingsLocation (cwd : Here) (l : Location) (top : Node) : Except Failure Location := do
  let file := Location.parse fileName
  let inside := ((← statIfThere cwd l top).map Node.isDirectory).getD false
  let l :=
    if inside then l.join file
    else if l.name != fileName then l.parent.join file
    else l
  top.resolve (cwd.join l).names

/-- The value of a text of settings; a blank text is null. -/
def readValue (loader : Loader) (file text : String) : Except Failure Yaml.Value :=
  if Text.isBlankText text then .ok .null
  else (loader text).mapError (failureOf file)

/-- The settings for a location. -/
def load (loader : Loader) (cwd : Here) (l : Location) (top : Node) : Except Failure Settings := do
  let file ← settingsLocation cwd l top
  let root ← top.resolve file.parent.names
  match ← statIfThere cwd file top with
  | none => return { root }
  | some _ => ofValue root (← readValue loader file.name (← readText cwd file top))

end Scaffold.Config
