import Scaffold.Workspace.Tree
import Scaffold.Glob

/-!
# Listing a workspace

The files of a directory tree in a fixed order: in each directory first its files by name, then
what its subdirectories hold, by name. Excluded entries are left out, and excluded directories are
not entered. A link to a directory is neither a file nor entered. A directory is listed by its path,
and one that the system does not list is passed over in silence: its path is too long.
-/

namespace Scaffold.Workspace

/-- An entry of a directory on a walk. -/
inductive Visit
  /-- a file, or a link that leads to no directory -/
  | file
  /-- a directory, with the paths found in it -/
  | entered (below : List String)
  /-- a directory that is not entered -/
  | passed

/-- An entry's path, seen from the root of the walk. -/
def relative (above name : String) : String :=
  if above.isEmpty then name else above ++ "/" ++ name

/-- Entries sorted by name. -/
def sortByName (visits : List (String × Visit)) : List (String × Visit) :=
  visits.mergeSort fun a b => a.1 ≤ b.1

/-- Paths in the order of a walk. -/
def inOrder (above : String) (visits : List (String × Visit)) : List String :=
  let sorted := sortByName visits
  let files := sorted.filterMap fun (name, visit) =>
    match visit with
    | .file => some (relative above name)
    | _ => none
  let below := sorted.flatMap fun (_, visit) =>
    match visit with
    | .entered paths => paths
    | _ => []
  files ++ below

namespace Node

mutual

/-- The paths found in a node that stands at `here` in the tree and at `above` in the walk. -/
def pathsBelow (top : Node) (exclude : List String) (here : List String) (above : String) :
    Node → List String
  | directory entries =>
    if pathLimit < (Location.top here).text.utf8ByteSize then []
    else inOrder above (visitsOf top exclude here above entries)
  | _ => []

/-- The entries of a directory that are not excluded. -/
def visitsOf (top : Node) (exclude : List String) (here : List String) (above : String) :
    List (String × Node) → List (String × Visit)
  | [] => []
  | (name, n) :: entries =>
    let rest := visitsOf top exclude here above entries
    let path := relative above name
    if Glob.excludes exclude path then rest
    else
      match n with
      | file _ => (name, .file) :: rest
      | link _ =>
        (name, if top.isDirectoryAt (.top (here ++ [name])) then .passed else .file) :: rest
      | directory inner =>
        (name, .entered (pathsBelow top exclude (here ++ [name]) path (directory inner))) :: rest

end

/-- The files below a directory that match a pattern, at least one if there is any, and otherwise
at most `limit`. -/
def list (top : Node) (root : List String) (pattern : String) (exclude : List String)
    (limit : Int) : List String :=
  match top.get? root with
  | none => []
  | some n =>
    ((top.pathsBelow exclude root "" n).filter (Glob.matchesPath pattern)).take
      (max 1 limit.toNat)

end Node

/-! ### Summaries -/

/-- What a prompt says about the files that are already there: directories and files in sorted
order, and how many there are of both. -/
structure Summary where
  directories : List String
  files : List String
  total : Int
deriving Repr, DecidableEq

/-- Nothing there. -/
def Summary.empty : Summary := ⟨[], [], 0⟩

end Scaffold.Workspace
