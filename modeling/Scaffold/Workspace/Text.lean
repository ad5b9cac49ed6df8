import Scaffold.Workspace.Resolve

/-!
# Text files

Reading and writing whole texts. A text is UTF-8; on reading, each of the three line ends counts as
a line feed.
-/

namespace Scaffold.Workspace

/-- A text with every line end as a line feed. -/
def unifyLineEnds : List Char → List Char
  | [] => []
  | '\r' :: '\n' :: cs => '\n' :: unifyLineEnds cs
  | '\r' :: cs => '\n' :: unifyLineEnds cs
  | c :: cs => c :: unifyLineEnds cs

/-- The text of bytes. -/
def textOf? (content : ByteArray) : Option String :=
  (String.fromUTF8? content).map fun s => String.ofList (unifyLineEnds s.toList)

/-- The current directory, from which relative locations are seen. -/
abbrev Here := Location

/-- A cause as a refusal of the system's, about a location as it is written. -/
def systemFailure (l : Location) (cause : SystemCause) : Failure :=
  .system ⟨cause, l.text⟩

/-- The text of the file at a location. -/
def readText (cwd : Here) (l : Location) (top : Node) : Except Failure String :=
  if Node.hasNul l.names then .error Node.nulFailure
  else
    match top.read (cwd.join l) with
    | .error cause => .error (systemFailure l cause)
    | .ok content =>
      match textOf? content with
      | some s => .ok s
      | none => .error .undecodable

/-- A location as it was written, for one that was made absolute. -/
def shownAs (cwd l absolute : Location) : Location :=
  if l.isAbsolute then absolute else ⟨0, absolute.names.drop cwd.names.length⟩

/-- Write a text to the file at a location, making the directories above it. -/
def writeText (cwd : Here) (l : Location) (text : String) (top : Node) :
    Except SystemFault Unit × Node :=
  match top.ensureDirectories (cwd.join l.parent) with
  | (top, some (cause, at_)) => (.error ⟨cause, (shownAs cwd l at_).text⟩, top)
  | (top, none) =>
    match top.write (cwd.join l) text.toUTF8 with
    | .ok top => (.ok (), top)
    | .error cause => (.error ⟨cause, l.text⟩, top)

end Scaffold.Workspace
