import Scaffold.Workspace.Listing
import Scaffold.Workspace.Resolve
import Scaffold.Log.Record

/-!
# File systems

The four things that planning and generation ask of a file system (`FileSystem`), and the file
system of a workspace (`FileSystem.local`): a part of a file tree that no path leaves.
-/

namespace Scaffold.Workspace

/-- A file system on a state; paths are seen from its root. -/
structure FileSystem (τ : Type) where
  createDirectory : String → StateM τ (Except Failure Unit)
  exists? : String → StateM τ (Except Failure Bool)
  writeFile : String → ByteArray → StateM τ (Except Failure Unit)
  /-- the files that match a pattern and no exclusion, up to a limit -/
  listFiles : String → List String → Int → StateM τ (Except Failure (List String))

/-- Where a path of a workspace leads, which must not be outside. -/
def confine (root : Location) (top : Node) (path : String) : Except Failure Location := do
  if path.isEmpty then return root
  else
    let target ← top.resolve (root.join (Location.parse path)).names
    if target.isWithin root then return target
    else throw (.fileSystem path "path escapes the workspace root")

/-- A cause as the failure of a path. -/
def pathFailure (path : String) (cause : SystemCause) : Failure :=
  .fileSystem path cause.message

/-- Make a directory of a workspace. -/
def createDirectoryIn (root : Location) (path : String) (top : Node) : Except Failure Unit × Node :=
  match confine root top path with
  | .error f => (.error f, top)
  | .ok target =>
    match top.ensureDirectories target with
    | (top, none) => (.ok (), top)
    | (top, some (cause, _)) => (.error (pathFailure path cause), top)

/-- Whether something is at a path of a workspace. -/
def existsIn (root : Location) (path : String) (top : Node) : Except Failure Bool := do
  let target ← confine root top path
  match top.stat target with
  | .ok _ => return true
  | .error .noEntry => return false
  | .error cause => throw (pathFailure path cause)

/-- Write a file of a workspace. -/
def writeFileIn (root : Location) (path : String) (content : ByteArray) (top : Node) :
    Except Failure Unit × Node :=
  match confine root top path with
  | .error f => (.error f, top)
  | .ok target =>
    match top.write target content with
    | .ok top => (.ok (), top)
    | .error cause => (.error (pathFailure path cause), top)

/-- The file system of a workspace, whose root is resolved: a `~` at its start, too. -/
def FileSystem.local (root : Location) : FileSystem Node where
  createDirectory path := createDirectoryIn root path
  exists? path := fun top => (existsIn root path top, top)
  writeFile path content := writeFileIn root path content
  listFiles pattern exclude limit := fun top =>
    (.ok (top.list root.names pattern exclude limit), top)

/-- What is left out of a summary unless something else is said. -/
def defaultExcludes : List String :=
  ["node_modules/**", "dist/**", "out/**", ".git/**"]

/-- How many files a summary shows unless something else is said. -/
def defaultLimit : Int := 100

/-- The directory of a listed path, if it is not at the top. -/
def directoryOf? (path : String) : Option String :=
  (Text.cutLast '/' path.toList).1.map String.ofList

/-- Sorted texts. -/
def sortTexts (texts : List String) : List String :=
  texts.mergeSort fun a b => a ≤ b

/-- The summary of listed files. -/
def Summary.ofFiles (files : List String) : Summary :=
  let directories := sortTexts (files.filterMap directoryOf?).eraseDups
  let files := sortTexts files
  ⟨directories, files, directories.length + files.length⟩

/-- A file failure or one of the system's, which make a summary empty. -/
def hidesListing : Failure → Bool
  | .fileSystem .. => true
  | f => f.isSystem

/-- What a run has: files, and everything else. -/
structure World (τ ρ : Type) where
  files : τ
  rest : ρ

namespace World

variable {τ ρ α : Type}

/-- Act on the files. -/
def onFiles (act : StateM τ α) : StateM (World τ ρ) α := fun w =>
  let (a, files) := act w.files
  (a, { w with files := files })

/-- Act on all but the files. -/
def onRest (act : StateM ρ α) : StateM (World τ ρ) α := fun w =>
  let (a, rest) := act w.rest
  (a, { w with rest := rest })

instance [Log.Journal ρ] : Log.Journal (World τ ρ) where
  threshold w := Log.Journal.threshold w.rest
  add r w := { w with rest := Log.Journal.add r w.rest }

end World

/-- The summary of a workspace; empty if it cannot be listed. -/
def summarize {τ ρ : Type} [Log.Journal ρ] (fs : FileSystem τ) (limit : Int)
    (exclude : List String) : StateM (World τ ρ) (Except Failure Summary) := do
  match ← World.onFiles (fs.listFiles "**/*" exclude limit) with
  | .ok files => return .ok (.ofFiles files)
  | .error f =>
    if hidesListing f then
      Log.note .debug "workspace" s!"Workspace listing failed: {f.message}"
      return .ok .empty
    else return .error f

end Scaffold.Workspace
