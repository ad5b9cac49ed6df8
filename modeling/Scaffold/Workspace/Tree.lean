import Scaffold.Failure
import Scaffold.Workspace.Location

/-!
# File trees

A tree of directories, files and symbolic links, and what the operating system does with a path in
it. `Node.walk` follows a path name by name and through links, of which it follows `linkBudget` at
most; `stat`, `read`, `write` and `makeDirectory` are said through it.
-/

namespace Scaffold.Workspace

/-- A file, a symbolic link, or a directory with its entries. -/
inductive Node
  | file (content : ByteArray)
  | link (target : String)
  | directory (entries : List (String × Node))

namespace Node

instance : Inhabited Node := ⟨directory []⟩

/-- An empty directory. -/
def empty : Node := directory []

/-- It is a directory. -/
def isDirectory : Node → Bool
  | directory _ => true
  | _ => false

/-- The entry of a name. -/
def lookup (name : String) : List (String × Node) → Option Node
  | [] => none
  | (k, n) :: entries => if k == name then some n else lookup name entries

/-- Give a name an entry: in its place if there is one, else at the end. -/
def insert (name : String) (node : Node) : List (String × Node) → List (String × Node)
  | [] => [(name, node)]
  | (k, n) :: entries =>
    if k == name then (k, node) :: entries else (k, n) :: insert name node entries

/-- The entries without that of a name. -/
def erase (name : String) : List (String × Node) → List (String × Node)
  | [] => []
  | (k, n) :: entries => if k == name then entries else (k, n) :: erase name entries

/-- The node of a path of names, links not followed. -/
def get? : Node → List String → Option Node
  | n, [] => some n
  | directory entries, name :: rest =>
    match lookup name entries with
    | some n => n.get? rest
    | none => none
  | _, _ :: _ => none

/-- Put a node at a path whose directory is there; else nothing changes. -/
def put : Node → List String → Node → Node
  | _, [], new => new
  | directory entries, [name], new => directory (insert name new entries)
  | directory entries, name :: rest, new =>
    match lookup name entries with
    | some n => directory (insert name (n.put rest new) entries)
    | none => directory entries
  | n, _ :: _, _ => n
termination_by _ names => names

/-- Take away what a path names. -/
def remove : Node → List String → Node
  | n, [] => n
  | directory entries, [name] => directory (erase name entries)
  | directory entries, name :: rest =>
    match lookup name entries with
    | some n => directory (insert name (n.remove rest) entries)
    | none => directory entries
  | n, _ :: _ => n
termination_by _ names => names

/-- The most links that are followed in one path. -/
def linkBudget : Nat := 40

/-- The longest name of an entry, in bytes. -/
def nameLimit : Nat := 255

/-- The longest path, in bytes. -/
def pathLimit : Nat := 4095

/-- The names of a link's target. A slash at its end asks for a directory. -/
def targetNames (target : String) : List String :=
  let names := (Location.piecesOf target).filter (· != "")
  if target.toList.getLast? == some '/' then names ++ ["."] else names

/-- Where a path leads: a place without links, and the node there if there is one. -/
structure Found where
  place : List String
  node : Option Node

/-- Follow names from the place `here`, the last one through a link only if `followLast`. -/
def walk (top : Node) (followLast : Bool) (budget : Nat) (here : List String) :
    List String → Except SystemCause Found
  | [] => .ok ⟨here, top.get? here⟩
  | name :: rest =>
    if name == "." then walk top followLast budget here rest
    else if name == ".." then walk top followLast budget here.dropLast rest
    else if nameLimit < name.utf8ByteSize then .error .nameTooLong
    else
      match top.get? (here ++ [name]) with
      | none => if rest.isEmpty then .ok ⟨here ++ [name], none⟩ else .error .noEntry
      | some (.file content) =>
        if rest.isEmpty then .ok ⟨here ++ [name], some (.file content)⟩ else .error .notDirectory
      | some (.directory _) => walk top followLast budget (here ++ [name]) rest
      | some (.link target) =>
        if rest.isEmpty && !followLast then .ok ⟨here ++ [name], some (.link target)⟩
        else
          match budget with
          | 0 => .error .linkLoop
          | budget + 1 =>
            walk top followLast budget (if (Location.parse target).isAbsolute then [] else here)
              (targetNames target ++ rest)
termination_by names => (budget, names.length)

/-- Follow a location from the top. -/
def locate (top : Node) (followLast : Bool) (l : Location) : Except SystemCause Found :=
  if pathLimit < l.text.utf8ByteSize then .error .nameTooLong
  else top.walk followLast linkBudget [] l.names

/-- What is at a location, links followed. -/
def stat (top : Node) (l : Location) : Except SystemCause Node := do
  match (← top.locate true l).node with
  | some n => return n
  | none => throw .noEntry

/-- The content of a file. -/
def read (top : Node) (l : Location) : Except SystemCause ByteArray := do
  match ← top.stat l with
  | .file content => return content
  | _ => throw .isDirectory

/-- The tree with a file's content replaced, or with a new file. -/
def write (top : Node) (l : Location) (content : ByteArray) : Except SystemCause Node := do
  let found ← top.locate true l
  match found.node with
  | some (.directory _) => throw .isDirectory
  | _ => return top.put found.place (.file content)

/-- The tree with a new directory. -/
def makeDirectory (top : Node) (l : Location) : Except SystemCause Node := do
  let found ← top.locate false l
  match found.node with
  | some _ => throw .entryExists
  | none => return top.put found.place empty

/-- A directory is at the location, links followed. -/
def isDirectoryAt (top : Node) (l : Location) : Bool :=
  match top.stat l with
  | .ok n => n.isDirectory
  | .error _ => false

/-- A cause and the location it is about. -/
abbrev Refusal := SystemCause × Location

/-- Make a directory; one that is there is left alone. -/
def ensureDirectory (top : Node) (l : Location) : Node × Option Refusal :=
  match top.makeDirectory l with
  | .ok top => (top, none)
  | .error cause => if top.isDirectoryAt l then (top, none) else (top, some (cause, l))

/-- Make a directory and what is missing above it, at most `fuel` levels. What was made before a
refusal stays. -/
def ensureDirectoriesUpTo : Nat → Location → Node → Node × Option Refusal
  | 0, l, top => (top, some (.noEntry, l))
  | fuel + 1, l, top =>
    match top.makeDirectory l with
    | .error .noEntry =>
      if l.names.isEmpty then (top, some (.noEntry, l))
      else
        match ensureDirectoriesUpTo fuel l.parent top with
        | (top, none) => top.ensureDirectory l
        | (top, some refusal) => (top, some refusal)
    | _ => top.ensureDirectory l

/-- Make a directory and what is missing above it. -/
def ensureDirectories (top : Node) (l : Location) : Node × Option Refusal :=
  ensureDirectoriesUpTo (l.names.length + 1) l top

end Node

end Scaffold.Workspace
