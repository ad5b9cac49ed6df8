import Scaffold.Generation.Run
import Scaffold.Plan.Item

/-!
# Making the items of a plan

`materialize` makes the directories of a plan, and its files as empty ones. A file that exists is
left alone; an item that the file system refuses is reported and the others are made all the same.
-/

namespace Scaffold.Orchestration
open Scaffold.Workspace

/-- The items of a plan that were made, and those that were not, each list in order. -/
structure Made where
  created : List String
  failed : List Generation.FailedPath
deriving Repr, DecidableEq

namespace Made

/-- No items. -/
def empty : Made := ⟨[], []⟩

/-- One more item at the front that was made. -/
def addCreated (path : String) (m : Made) : Made :=
  { m with created := path :: m.created }

/-- One more item at the front that was not made. -/
def addFailed (path reason : String) (m : Made) : Made :=
  { m with failed := ⟨path, reason⟩ :: m.failed }

end Made

section

variable {τ ρ : Type} [Log.Journal ρ]

/-- Make one item. -/
def place (fs : FileSystem τ) (item : Plan.Item) : StateM τ (Except Failure Unit) := do
  match item.kind with
  | .directory => fs.createDirectory item.path
  | .file =>
    match ← Generation.prepare fs item.path with
    | .error f => return .error f
    | .ok true => return .ok ()
    | .ok false => fs.writeFile item.path (item.content.getD "").toUTF8

/-- Make the items of a plan. A failure other than the file system's ends the run. -/
def materialize (fs : FileSystem τ) :
    List Plan.Item → StateM (World τ ρ) (Except Failure Made)
  | [] => return .ok .empty
  | item :: items => do
    match ← World.onFiles (place fs item) with
    | .ok () => return (← materialize fs items).map (Made.addCreated item.path)
    | .error (.fileSystem _ reason) =>
      Log.note .error "orchestrator" s!"Failed to create {item.path}: {reason}"
      return (← materialize fs items).map (Made.addFailed item.path reason)
    | .error f => return .error f

end

end Scaffold.Orchestration
