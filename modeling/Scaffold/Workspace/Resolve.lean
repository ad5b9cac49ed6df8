import Scaffold.Workspace.Tree

/-!
# Locations without links

`Node.resolve` is the location of a path with its links replaced by what they point at. Names that
lead nowhere are kept. A link that leads back to itself ends the search: the rest of the path is
then taken as it is written, and `..` removes the name before it.
-/

namespace Scaffold.Workspace.Node

/-- Links met on the way, with what each resolved to; `none` while that is not known. -/
abbrev Met := List (List String × Option (List String))

/-- A resolved location; not `complete` when a link led back to itself. -/
structure Resolved where
  place : Location
  complete : Bool
  met : Met

/-- The target of the link at a place. The system is asked for it by a path, and knows of none at
the end of one that is too long. -/
def linkAt? (top : Node) (place : List String) : Option String :=
  if pathLimit < (Location.top place).text.utf8ByteSize then none
  else
    match top.get? place with
    | some (.link target) => some target
    | _ => none

/-- A location with the pieces of a text behind it; a text that starts with a slash starts again
from the top. -/
def behind (place : Location) : List String → Location
  | "" :: piece :: pieces =>
    ⟨Location.slashesOf ("/".intercalate ("" :: piece :: pieces)), piece :: pieces⟩
  | pieces => ⟨place.slashes, place.names ++ pieces⟩

/-- Resolve names from the place `here`, where `expand` resolves the target of a link. -/
def resolveWith (top : Node) (expand : Met → List String → String → Resolved) (met : Met)
    (here : List String) : List String → Resolved
  | [] => ⟨.top here, true, met⟩
  | name :: rest =>
    if !Location.speaks name then resolveWith top expand met here rest
    else if name == ".." then resolveWith top expand met here.dropLast rest
    else
      let next := here ++ [name]
      match top.linkAt? next with
      | some target =>
        match met.lookup next with
        | some (some place) => resolveWith top expand met place rest
        | some none => ⟨behind (.top next) rest, false, met⟩
        | none =>
          let r := expand ((next, none) :: met) here target
          if r.complete then
            resolveWith top expand ((next, some r.place.names) :: r.met) r.place.names rest
          else ⟨behind r.place rest, false, r.met⟩
      | none => resolveWith top expand met next rest

/-- Resolve a link's target, through at most so many further links. -/
def expandLink (top : Node) : Nat → Met → List String → String → Resolved
  | 0, met, here, target => ⟨.top (here ++ Location.piecesOf target), false, met⟩
  | fuel + 1, met, here, target =>
    resolveWith top (expandLink top fuel) met
      (if (Location.parse target).isAbsolute then [] else here) (Location.piecesOf target)

mutual

/-- How many links there are. -/
def linkCount : Node → Nat
  | file _ => 0
  | link _ => 1
  | directory entries => linkCountIn entries

/-- How many links there are in entries. -/
def linkCountIn : List (String × Node) → Nat
  | [] => 0
  | (_, n) :: entries => n.linkCount + linkCountIn entries

end

/-- Names without those that say nothing, and without `..` and the name before it. -/
def clean (names : List String) : List String :=
  names.foldl
    (fun seen name =>
      if !Location.speaks name then seen
      else if name == ".." then seen.dropLast
      else seen ++ [name]) []

/-- Where names counted from the top lead, links replaced as far as that goes. -/
def resolved (top : Node) (names : List String) : Resolved :=
  resolveWith top (expandLink top (top.linkCount + 1)) [] [] names

/-- The location of names counted from the top, links replaced. -/
def resolveNames (top : Node) (names : List String) : Location :=
  let place := (top.resolved names).place
  ⟨place.slashes, clean place.names⟩

/-- Some name holds the character that ends every text of the system's. -/
def hasNul (names : List String) : Bool :=
  names.any fun name => name.toList.contains '\x00'

/-- The failure of a path that holds the character that ends every text of the system's. -/
def nulFailure : Failure := .value "embedded null byte"

/-- Where names counted from the top lead, or the failure of a link that leads back to itself. -/
def resolve (top : Node) (names : List String) : Except Failure Location :=
  if hasNul names then .error nulFailure
  else
    let l := top.resolveNames names
    match top.stat l with
    | .error .linkLoop => .error (.runtime s!"Symlink loop from {Text.quoted l.text}")
    | _ => .ok l

end Scaffold.Workspace.Node
