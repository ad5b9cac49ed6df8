import Scaffold.Plan.Path
import Scaffold.Json.Value
import Scaffold.Glob

/-!
# Plans

A plan is a list of items, each path once. `build` makes it from the value of a reply, `restrict`
keeps some kinds, `dedupe` reads paths that a person typed, and `selectMatching` picks by globs.
-/

namespace Scaffold.Plan

/-- One entry of a plan; files have the content they are created with. -/
structure Item where
  path : String
  kind : Kind
  content : Option String
deriving Repr, DecidableEq

/-- The entry of a path: a file is created empty. -/
def Item.of (path : String) (kind : Kind) : Item :=
  ⟨path, kind, match kind with | .file => some "" | .directory => none⟩

/-- A text of a reply that may become an entry, with its kind if the reply gives one. -/
structure Candidate where
  raw : String
  forced : Option Kind
deriving Repr, DecidableEq

/-- The texts of a value's items. -/
def candidatesIn (forced : Option Kind) : Option Json → List Candidate
  | some (.array items) => items.filterMap fun v => v.text?.map fun s => ⟨s, forced⟩
  | _ => []

/-- The candidates of a reply: a bare array, or the `paths` and then the `files` of an object. -/
def candidates (reply : Json) : List Candidate :=
  match reply with
  | .array _ => candidatesIn none (some reply)
  | _ =>
    candidatesIn none (reply.field? "paths") ++ candidatesIn (some .file) (reply.field? "files")

/-- Add a candidate unless its path is invalid or already there. -/
def accept (items : List Item) (c : Candidate) : List Item :=
  match normalize c.raw with
  | .error _ => items
  | .ok path =>
    if items.any (·.path == path) then items
    else items ++ [Item.of path (c.forced.getD (classify path))]

/-- The plan of a reply. -/
def build (reply : Json) : List Item :=
  (candidates reply).foldl accept []

/-- Why candidates of a reply are dropped, in order. -/
def dropped (reply : Json) : List Failure :=
  (candidates reply).filterMap fun c =>
    match normalize c.raw with
    | .error failure => some failure
    | .ok _ => none

/-- The items of some kinds. -/
def restrict (kinds : List Kind) (items : List Item) : List Item :=
  items.filter fun item => kinds.contains item.kind

/-- Typed paths, trimmed and in one spelling, each once; a single bad one fails them all. -/
def dedupe (paths : List String) : Except Failure (List String) :=
  paths.foldlM
    (fun seen raw => do
      let path ← normalize (Text.strip raw)
      return if seen.contains path then seen else seen ++ [path]) []

/-- The paths of items. -/
def paths (items : List Item) : List String :=
  items.map Item.path

/-- A choice among the items of a plan. -/
abbrev Selector := List Item → List String

/-- The paths that some pattern stands for; all of them without any pattern. -/
def selectMatching (patterns : List String) : Selector := fun items =>
  if patterns.isEmpty then paths items
  else (paths items).filter fun path => patterns.any fun p => Glob.matchesText p path

end Scaffold.Plan
