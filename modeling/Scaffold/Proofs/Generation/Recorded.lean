import Scaffold.Generation.Run

/-!
# Recorded calls

A state with the calls that were made on it (`Recorded`), and the file system, the content provider
and the progress callback that do what the plain ones do and write down each call with its answer.
-/

namespace Scaffold.Generation
open Scaffold.Workspace

/-- A state and the calls that were made on it, in order. -/
structure Recorded (σ ι : Type) where
  state : σ
  calls : List ι

instance {σ ι : Type} [Log.Journal σ] : Log.Journal (Recorded σ ι) where
  threshold s := Log.Journal.threshold s.state
  add r s := { s with state := Log.Journal.add r s.state }

/-- Act, and write the call down. -/
def recording {σ ι α : Type} (call : α → ι) (act : StateM σ α) : StateM (Recorded σ ι) α := fun s =>
  let (a, state) := act s.state
  (a, ⟨state, s.calls ++ [call a]⟩)

theorem recording_apply {σ ι α : Type} {call : α → ι} {act : StateM σ α} {s s' : σ} {a : α}
    (h : act s = (a, s')) (calls : List ι) :
    recording call act ⟨s, calls⟩ = (a, ⟨s', calls ++ [call a]⟩) := by
  simp only [recording, h]

/-- A call of the file system, and its answer. -/
inductive FileCall
  | createDirectory (path : String) (answer : Except Failure Unit)
  | exists? (path : String) (answer : Except Failure Bool)
  | writeFile (path : String) (content : ByteArray) (answer : Except Failure Unit)
  | listFiles (answer : Except Failure (List String))

/-- A call of the content provider with its answer, or of the progress callback. -/
inductive RestCall
  | ask (prompt : String) (all : List String) (path : String) (answer : Except Failure Reply)
  | report (done total : Nat) (message : String)

variable {τ ρ : Type}

/-- The file system that writes its calls down. -/
def recordedFiles (fs : FileSystem τ) : FileSystem (Recorded τ FileCall) where
  createDirectory path := recording (.createDirectory path) (fs.createDirectory path)
  exists? path := recording (.exists? path) (fs.exists? path)
  writeFile path content := recording (.writeFile path content) (fs.writeFile path content)
  listFiles pattern exclude limit := recording .listFiles (fs.listFiles pattern exclude limit)

/-- The content provider that writes its calls down. -/
def recordedProvider (provider : ContentProvider ρ) : ContentProvider (Recorded ρ RestCall) :=
  fun prompt all path => recording (.ask prompt all path) (provider prompt all path)

/-- The progress callback that writes its calls down. -/
def recordedProgress (report : Progress ρ) : Progress (Recorded ρ RestCall) :=
  fun done total message => recording (fun _ => .report done total message)
    (report done total message)

/-- A world with what was called so far. -/
def recorded (w : World τ ρ) (files : List FileCall) (rest : List RestCall) :
    World (Recorded τ FileCall) (Recorded ρ RestCall) :=
  ⟨⟨w.files, files⟩, ⟨w.rest, rest⟩⟩

end Scaffold.Generation
