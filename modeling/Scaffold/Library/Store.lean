import Scaffold.Json.Failure
import Scaffold.Json.Printer
import Scaffold.Library.Entry
import Scaffold.Library.Timestamp
import Scaffold.Workspace.FileSystem
import Scaffold.Workspace.Text

/-!
# The template store

A store is a file and the entries that were read from it when it was opened (`Store.load`). Every
change is made in memory and then written to the file as a whole (`Store.persist`).
-/

namespace Scaffold.Library
open Scaffold.Workspace

/-- An open store. -/
structure Store where
  /-- its file, as it was named -/
  location : Location
  entries : List Entry

/-- The value in a store's file, or `none` if there is no file. -/
def readStore (cwd : Here) (l : Location) (top : Node) : Except Failure (Option Json) :=
  match readText cwd l top with
  | .ok text =>
    match Json.parse text with
    | .ok v => .ok (some v)
    | .error fault => .error (fault.failure (.store (.malformed l.text)))
  | .error (.system fault) =>
    match fault.cause with
    | .noEntry => .ok none
    | _ => .error (.store (.unreadable l.text fault))
  | .error f => .error f

section

variable {ρ : Type} [Log.Journal ρ]

/-- Open the store of a file. A missing file is an empty store, and so is one of another version. -/
def Store.load (cwd : Here) (l : Location) : StateM (World Node ρ) (Except Failure Store) := do
  match readStore cwd l (← get).files with
  | .error f => return .error f
  | .ok none => return .ok ⟨l, []⟩
  | .ok (some v) =>
    if hasVersion v then return .ok ⟨l, ofJson v⟩
    else
      Log.note .warning "templates" s!"Ignoring template store with unknown format: {l.text}"
      return .ok ⟨l, []⟩

/-- Write the entries to the store's file. -/
def Store.persist (cwd : Here) (s : Store) : StateM (World Node ρ) (Except Failure Unit) := do
  let text := Json.print .file (toJson s.entries)
  match ← World.onFiles (writeText cwd s.location text) with
  | .ok () => return .ok ()
  | .error fault => return .error (.store (.unwritable s.location.text fault))

/-- Keep changed entries and write them; report once they are written. -/
def Store.commit {α : Type} (cwd : Here) (s : Store) (entries : List Entry) (result : α)
    (report : String) : StateM (World Node ρ) (Store × Except Failure α) := do
  let s := { s with entries := entries }
  match ← s.persist cwd with
  | .ok () =>
    Log.note .info "templates" report
    return (s, .ok result)
  | .error f => return (s, .error f)

/-- Store a template under a new name. -/
def Store.create [Clock ρ] (cwd : Here) (s : Store) (name content description : String) :
    StateM (World Node ρ) (Store × Except Failure Entry) := do
  match checkName s.entries name none, checkContent content with
  | .error f, _ => return (s, .error f)
  | _, .error f => return (s, .error f)
  | .ok name, .ok () =>
    let now := dateText (← World.onRest Clock.now)
    let id := identifier (← World.onRest Clock.now) (← World.onRest Clock.chance)
    let e : Entry := ⟨id, name, Text.strip description, content, now, now⟩
    s.commit cwd (s.entries ++ [e]) e s!"Saved template {Text.quoted name}"

/-- Change a stored template. -/
def Store.update [Clock ρ] (cwd : Here) (s : Store) (key : String) (changes : Changes) :
    StateM (World Node ρ) (Store × Except Failure Entry) := do
  match fetch s.entries key with
  | .error f => return (s, .error f)
  | .ok current =>
    match changes.check s.entries current with
    | .error f => return (s, .error f)
    | .ok changes =>
      let e := changes.apply current (dateText (← World.onRest Clock.now))
      s.commit cwd (replace s.entries e) e s!"Updated template {Text.quoted e.name}"

/-- Delete the templates of keys, each of which must be known. -/
def Store.delete (cwd : Here) (s : Store) (keys : List String) :
    StateM (World Node ρ) (Store × Except Failure (List Entry)) := do
  match keys.mapM (fetch s.entries) with
  | .error f => return (s, .error f)
  | .ok targets =>
    let ids := (targets.map Entry.id).eraseDups
    if ids.isEmpty then return (s, .ok [])
    else
      s.commit cwd (without s.entries ids) targets s!"Deleted {ids.length} template(s)"

/-- Store a template again, under a given name or one that says that it is a copy. -/
def Store.duplicate [Clock ρ] (cwd : Here) (s : Store) (key : String) (name : Option String) :
    StateM (World Node ρ) (Store × Except Failure Entry) := do
  match fetch s.entries key with
  | .error f => return (s, .error f)
  | .ok source =>
    s.create cwd (name.getD (source.name ++ " (Copy)")) source.content source.description

end

end Scaffold.Library
