import Scaffold.Text.Split

/-!
# Locations

A path as it is written: leading slashes and names. Empty names and `.` say nothing and are
dropped; `..` is kept, since it means something else behind a symbolic link.
-/

namespace Scaffold.Workspace
open Scaffold.Text

/-- A path: its leading slashes, none, one or two, and its names. -/
structure Location where
  slashes : Nat
  names : List String
deriving Repr, DecidableEq

namespace Location

/-- The pieces of a text between slashes. -/
def piecesOf (text : String) : List String :=
  (splitOn '/' text.toList).map String.ofList

/-- A name that says something. -/
def speaks (name : String) : Bool :=
  name != "" && name != "."

/-- The names of a text that say something. -/
def namesOf (text : String) : List String :=
  (piecesOf text).filter speaks

/-- The leading slashes of a text; more than two are as good as one. -/
def slashesOf (text : String) : Nat :=
  match (text.toList.takeWhile (· == '/')).length with
  | 0 => 0
  | 2 => 2
  | _ => 1

/-- The location that a text names. -/
def parse (text : String) : Location :=
  ⟨slashesOf text, namesOf text⟩

/-- The place of names counted from the top. -/
def top (names : List String) : Location := ⟨1, names⟩

/-- A location as text; a relative one without names is the current directory. -/
def text (l : Location) : String :=
  if l.slashes == 0 && l.names.isEmpty then "."
  else String.ofList (List.replicate l.slashes '/') ++ "/".intercalate l.names

/-- It is counted from the top. -/
def isAbsolute (l : Location) : Bool := l.slashes != 0

/-- A location seen from another one. -/
def join (base l : Location) : Location :=
  if l.isAbsolute then l else ⟨base.slashes, base.names ++ l.names⟩

/-- The directory that holds it. -/
def parent (l : Location) : Location := ⟨l.slashes, l.names.dropLast⟩

/-- Its last name. -/
def name (l : Location) : String := l.names.getLast?.getD ""

/-- It is the other one or lies below it. -/
def isWithin (l base : Location) : Bool :=
  l.slashes == base.slashes && base.names.isPrefixOf l.names

end Location

end Scaffold.Workspace
