import Scaffold.Cli.Command
import Scaffold.Config.Load

/-!
# The places of a command

Which places in the file tree a command is about (`Command.places`): the root of a workspace and the
files that are named. The template store is one more place, which the settings may name
(`storePlace?`).
-/

namespace Scaffold.Cli
open Scaffold.Workspace

/-- The file of a source. -/
def Source.places : Source → List String
  | .file path => [path]
  | _ => []

/-- The file that a command for stored templates reads. -/
def TemplateCommand.places : TemplateCommand → List String
  | .add _ _ content => content.places
  | .update _ _ _ (some content) => content.places
  | _ => []

/-- The root of the workspace that a command is about. -/
def Command.root? : Command → Option String
  | .plan root .. => some root
  | .run root _ => some root
  | .template root .. => some root
  | .models root => some root
  | .serve .. => none

/-- The root and the files that a command names. -/
def Command.places (c : Command) : List String :=
  c.root?.toList ++
    match c with
    | .run _ options => options.source.places
    | .template _ store command => store.toList ++ command.places
    | _ => []

/-- The places of a command line; one that cannot be read has none. -/
def placesOf (words : List String) : List String :=
  match Invocation.read words with
  | .ok i => i.command.places
  | .error _ => []

/-- Where the settings put the template store of a command line. -/
def storePlace? (loader : Config.Loader) (here : Location) (words : List String) (top : Node) :
    Option Location := do
  let i ← (Invocation.read words).toOption
  let settings ← (Config.load loader here (Location.parse (← i.command.root?)) top).toOption
  return here.join settings.storeLocation

end Scaffold.Cli
