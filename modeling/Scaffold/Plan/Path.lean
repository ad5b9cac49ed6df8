import Scaffold.Failure
import Scaffold.Text.Split

/-!
# Paths of a plan

A plan holds relative paths in one spelling: segments joined by `/`, none of them empty, `.` or
`..` (`normalize`). The last segment tells what a path is for (`classify`, `suffixOf`).
-/

namespace Scaffold.Plan
open Scaffold.Text

/-- What a path of a plan stands for. -/
inductive Kind
  | file
  | directory
deriving Repr, DecidableEq

/-- The name of a kind. -/
def Kind.name : Kind → String
  | file => "file"
  | directory => "directory"

/-- The kind of a name. -/
def Kind.ofName? (name : String) : Option Kind :=
  if name == "file" then some file
  else if name == "directory" then some directory
  else none

/-- Either of the two separators. -/
def isSeparator (c : Char) : Bool :=
  c == '/' || c == '\\'

/-- A letter of ASCII. -/
def isLetter (c : Char) : Bool :=
  ('a' ≤ c && c ≤ 'z') || ('A' ≤ c && c ≤ 'Z')

/-- A text that starts at a root or on a drive. -/
def isAbsolute : List Char → Bool
  | [] => false
  | [c] => isSeparator c
  | c :: d :: _ => isSeparator c || (isLetter c && d == ':')

/-- A segment that says nothing. -/
def isIdle (segment : List Char) : Bool :=
  segment.isEmpty || segment == ['.']

/-- The segments of a relative path that say something. -/
def segmentsOf (cs : List Char) : List (List Char) :=
  (splitBy isSeparator cs).filter fun segment => !isIdle segment

/-- A path in its one spelling, as characters. -/
def normalizeChars (cs : List Char) : Except PathFault (List Char) :=
  if isAbsolute cs then .error .absolute
  else
    let segments := segmentsOf cs
    if segments.contains ['.', '.'] then .error .parentReference
    else if segments.isEmpty then .error .empty
    else .ok (joinWith ['/'] segments)

/-- A path in its one spelling. -/
def normalize (raw : String) : Except Failure String :=
  match normalizeChars raw.toList with
  | .ok cs => .ok (String.ofList cs)
  | .error fault => .error (.invalidPath raw fault.message)

/-- The last segment. -/
def baseChars (cs : List Char) : List Char :=
  (cutLast '/' cs).2

/-- A name with a dot that is not in front is a file's. -/
def classify (path : String) : Kind :=
  let base := baseChars path.toList
  if base.contains '.' && base.head? != some '.' then .file else .directory

/-- The directory of a path, empty at the top. -/
def parent (path : String) : String :=
  match (cutLast '/' path.toList).1 with
  | some front => String.ofList front
  | none => ""

/-- The name that a path ends in, idle segments aside. -/
def finalName (path : String) : List Char :=
  (((splitOn '/' path.toList).filter fun segment => !isIdle segment).getLast?).getD []

/-- The last dot of a path's name and what follows it; empty when either side of the dot is. -/
def suffixOf (path : String) : List Char :=
  match cutLast '.' (finalName path) with
  | (some front, after) => if front.isEmpty || after.isEmpty then [] else '.' :: after
  | (none, _) => []

end Scaffold.Plan
