import Scaffold.Workspace.Tree

/-!
# What changed in a file tree

`Node.changes` lists what must be made so that an older tree becomes a newer one: directories that
were not there, and files with another content. Each directory stands before what is in it. Nothing
is taken away.
-/

namespace Scaffold.Workspace

/-- Something that must be made. -/
inductive Change
  | directory (l : Location)
  | file (l : Location) (content : ByteArray)

namespace Node

/-- The entries of a directory; nothing else has any. -/
def entriesOf : Option Node → List (String × Node)
  | some (directory entries) => entries
  | _ => []

/-- It is a file of a content. -/
def holds (content : ByteArray) : Option Node → Bool
  | some (file old) => old == content
  | _ => false

mutual

/-- What must be made at a place, where `old` is what stood there. -/
def changes (place : List String) (old : Option Node) : Node → List Change
  | file content => if holds content old then [] else [.file (.top place) content]
  | link _ => []
  | directory entries =>
    (if (old.map isDirectory).getD false then [] else [.directory (.top place)]) ++
      changesIn place (entriesOf old) entries

/-- What must be made of the entries of a directory. -/
def changesIn (place : List String) (old : List (String × Node)) :
    List (String × Node) → List Change
  | [] => []
  | (name, n) :: entries =>
    changes (place ++ [name]) (lookup name old) n ++ changesIn place old entries

end

end Node

end Scaffold.Workspace
