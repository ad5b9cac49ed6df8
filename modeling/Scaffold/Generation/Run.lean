import Scaffold.Generation.Content
import Scaffold.Workspace.FileSystem
import Scaffold.Plan.Path

/-!
# Generating files

`generate` writes the targets one after the other. A file that exists is skipped unless it may be
overwritten; a failure of the file system marks the target as failed, and the run goes on to the
next target. Any other failure ends the run, such as that of a text without bytes. Each target has
one `Fate`, and an `Outcome` sorts the targets by it.
-/

namespace Scaffold.Generation
open Scaffold.Workspace

/-- What became of a target. -/
inductive Fate
  | created (fallback : Bool)
  | overwritten (fallback : Bool)
  | skipped
  | failed (reason : String)
deriving Repr, DecidableEq

/-- The report on a target. -/
def Fate.message (path : String) : Fate → String
  | created _ => "created " ++ path
  | overwritten _ => "overwrote " ++ path
  | skipped => "skipped " ++ path
  | failed _ => "failed " ++ path

/-- Written with content that stands in for a failed request. -/
def Fate.usedFallback : Fate → Bool
  | created fallback | overwritten fallback => fallback
  | _ => false

/-- A path that could not be written, and why. -/
structure FailedPath where
  path : String
  reason : String
deriving Repr, DecidableEq

/-- The targets of a run by what became of them, each list in order. -/
structure Outcome where
  created : List String
  overwritten : List String
  skipped : List String
  failed : List FailedPath
  fallbacks : List String
deriving Repr, DecidableEq

namespace Outcome

/-- No targets. -/
def empty : Outcome := ⟨[], [], [], [], []⟩

/-- The paths whose fate has a property. -/
def pathsOf (p : Fate → Bool) (fates : List (String × Fate)) : List String :=
  (fates.filter fun (_, fate) => p fate).map Prod.fst

/-- Targets sorted by fate. -/
def ofFates (fates : List (String × Fate)) : Outcome where
  created := pathsOf (fun fate => match fate with | .created _ => true | _ => false) fates
  overwritten := pathsOf (fun fate => match fate with | .overwritten _ => true | _ => false) fates
  skipped := pathsOf (fun fate => match fate with | .skipped => true | _ => false) fates
  failed := fates.filterMap fun (path, fate) =>
    match fate with
    | .failed reason => some ⟨path, reason⟩
    | _ => none
  fallbacks := pathsOf Fate.usedFallback fates

/-- A count in words; nothing for an empty list. -/
def counted (word : String) (paths : List String) : List String :=
  if paths.isEmpty then [] else [s!"{word} {paths.length}"]

/-- The run in a few words. -/
def summary (o : Outcome) : String :=
  let parts :=
    counted "created" o.created ++ counted "overwritten" o.overwritten ++
      counted "skipped" o.skipped
  if parts.isEmpty then "no changes" else ", ".intercalate parts

end Outcome

/-- The reason that marks a target as failed; other failures end the run. -/
def failureReason? : Failure → Option String
  | .fileSystem _ reason => some reason
  | f => if f.isSystem then some f.message else none

/-- Hears of each target: how many are done, how many there are, and what became of it. -/
abbrev Progress (ρ : Type) := Nat → Nat → String → StateM ρ Unit

section

variable {τ ρ : Type} [Log.Journal ρ]

/-- Mark a target as failed, if the failure is one of the file system's. -/
def recordFailure (path : String) (f : Failure) : StateM (World τ ρ) (Except Failure Fate) := do
  match failureReason? f with
  | some reason =>
    Log.note .error "generation" s!"Failed to generate {path}: {reason}"
    return .ok (.failed reason)
  | none => return .error f

/-- Whether a target exists, once its directory does. -/
def prepare (fs : FileSystem τ) (path : String) : StateM τ (Except Failure Bool) := do
  match ← fs.createDirectory (Plan.parent path) with
  | .ok () => fs.exists? path
  | .error f => return .error f

/-- Write a text, which must have bytes. -/
def writeText (fs : FileSystem τ) (path : String) (t : Text.Wide) :
    StateM τ (Except Failure Unit) := do
  match t.encode with
  | .ok bytes => fs.writeFile path bytes
  | .error halves => return .error (.unencodable halves)

/-- Write a target that may be written. -/
def writeTarget (fs : FileSystem τ) (provider : ContentProvider ρ) (prompt : String)
    (targets : List String) (existed : Bool) (path : String) :
    StateM (World τ ρ) (Except Failure Fate) := do
  match ← World.onRest (requestContent provider prompt targets path) with
  | .error f => return .error f
  | .ok content =>
    match ← World.onFiles (writeText fs path content.text) with
    | .ok () =>
      return .ok (if existed then .overwritten content.fallback else .created content.fallback)
    | .error f => recordFailure path f

/-- Generate one target. -/
def generateOne (fs : FileSystem τ) (provider : ContentProvider ρ) (prompt : String)
    (targets : List String) (overwrite : Bool) (path : String) :
    StateM (World τ ρ) (Except Failure Fate) := do
  match ← World.onFiles (prepare fs path) with
  | .error f => recordFailure path f
  | .ok existed =>
    if existed && !overwrite then
      Log.note .debug "generation" s!"Skipping existing file {path}"
      return .ok .skipped
    else writeTarget fs provider prompt targets existed path

/-- Generate targets one after the other, `done` of them being done. -/
def generateFrom (fs : FileSystem τ) (provider : ContentProvider ρ) (progress : Option (Progress ρ))
    (prompt : String) (targets : List String) (overwrite : Bool) (done : Nat) :
    List String → StateM (World τ ρ) (Except Failure (List (String × Fate)))
  | [] => return .ok []
  | path :: paths => do
    match ← generateOne fs provider prompt targets overwrite path with
    | .error f => return .error f
    | .ok fate =>
      match progress with
      | some report => World.onRest (report (done + 1) targets.length (fate.message path))
      | none => pure ()
      match ← generateFrom fs provider progress prompt targets overwrite (done + 1) paths with
      | .ok fates => return .ok ((path, fate) :: fates)
      | .error f => return .error f

/-- Generate targets, and sort them by what became of them. -/
def generate (fs : FileSystem τ) (provider : ContentProvider ρ) (progress : Option (Progress ρ))
    (prompt : String) (targets : List String) (overwrite : Bool) :
    StateM (World τ ρ) (Except Failure Outcome) := do
  match ← generateFrom fs provider progress prompt targets overwrite 0 targets with
  | .error f => return .error f
  | .ok fates =>
    let outcome := Outcome.ofFates fates
    Log.note .info "generation" s!"Generation finished: {outcome.summary}"
    return .ok outcome

end

end Scaffold.Generation
