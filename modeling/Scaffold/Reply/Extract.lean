import Scaffold.Json.Reader
import Scaffold.Reply.Basic
import Scaffold.Text.Split

/-!
# What a reply holds

Models wrap what they are asked for in chatter and code fences. `fenced?` is the inside of the
first fenced block; `extractJson` tries the whole text, the block, what its outer braces enclose,
and at last what the outer braces of the whole text enclose.
-/

namespace Scaffold.Reply
open Scaffold.Text

/-- Three backticks. -/
def fence : List Char := ['\x60', '\x60', '\x60']

/-- A character of a fence's language tag. -/
def isTagChar (c : Char) : Bool :=
  ('a' ≤ c && c ≤ 'z') || ('A' ≤ c && c ≤ 'Z') || ('0' ≤ c && c ≤ '9') ||
    c == '_' || c == '+' || c == '-'

/-- A blank that may follow the tag on its line. -/
def isLineBlank (c : Char) : Bool :=
  c == ' ' || c == '\t'

/-- What follows the tag, the blanks and the line end of an opening fence. -/
def afterOpening (cs : List Char) : List Char :=
  match (cs.dropWhile isTagChar).dropWhile isLineBlank with
  | '\n' :: rest => rest
  | rest => rest

/-- Where the inside of the first fenced block starts, and how long it is without white space at its
end. A block ends at the next three backticks. -/
def fencedSpan? (cs : List Char) : Option (Nat × Nat) := do
  let (_, opened) ← cutAt fence cs
  let (inside, _) ← cutAt fence (afterOpening opened)
  return (cs.length - (afterOpening opened).length, (trimRight inside).length)

/-- The inside of the first fenced block, without white space at its end. -/
def fencedChars? (cs : List Char) : Option (List Char) :=
  (fencedSpan? cs).map fun (start, count) => (cs.drop start).take count

/-- The inside of the first fenced block of a text. -/
def fenced? (s : String) : Option String :=
  (fencedChars? s.toList).map String.ofList

/-- What the first opening and the last closing brace enclose, braces included. -/
def braced? (cs : List Char) : Option (List Char) :=
  match cut '\x7b' cs with
  | (_, some rest) =>
    match cutLast '\x7d' rest with
    | (some inside, _) => some ('\x7b' :: inside ++ ['\x7d'])
    | (none, _) => none
  | (_, none) => none

/-- The texts that are tried in turn. -/
def jsonTexts (cs : List Char) : List (List Char) :=
  let block :=
    match fencedChars? cs with
    | none => []
    | some inside => trim inside :: (braced? (trim inside)).toList
  trim cs :: block ++ (braced? cs).toList

/-- The value of the first text that is JSON. -/
def extractJson (s : String) : Except Failure Json :=
  match (jsonTexts s.toList).findSome? fun cs => (Json.parseChars cs).toOption with
  | some v => .ok v
  | none => .error (.malformedReply s)

end Scaffold.Reply
