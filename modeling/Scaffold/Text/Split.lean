/-!
# Cutting texts at a character

`splitOn c cs` has one piece more than `cs` has `c`; `joinWith` puts pieces together again.
-/

namespace Scaffold.Text

/-- The pieces between the characters that `p` picks. -/
def splitBy (p : Char → Bool) : List Char → List (List Char)
  | [] => [[]]
  | c :: cs =>
    if p c then [] :: splitBy p cs
    else
      match splitBy p cs with
      | [] => [[c]]
      | piece :: pieces => (c :: piece) :: pieces

/-- The pieces between the occurrences of a character. -/
def splitOn (sep : Char) (cs : List Char) : List (List Char) :=
  splitBy (· == sep) cs

/-- The text before the first occurrence of a character, and what follows it if there is one. -/
def cut (sep : Char) : List Char → List Char × Option (List Char)
  | [] => ([], none)
  | c :: cs =>
    if c == sep then ([], some cs)
    else ((c :: (cut sep cs).1), (cut sep cs).2)

/-- The text before the last occurrence of a character, if there is one, and what follows it. -/
def cutLast (sep : Char) (cs : List Char) : Option (List Char) × List Char :=
  match cut sep cs.reverse with
  | (after, some before) => (some before.reverse, after.reverse)
  | (all, none) => (none, all.reverse)

/-- Some suffix of the text starts with `part`. -/
def contains (part : List Char) : List Char → Bool
  | [] => part.isEmpty
  | c :: cs => part.isPrefixOf (c :: cs) || contains part cs

/-- The text before and after the first occurrence of `part`. -/
def cutAt (part : List Char) : List Char → Option (List Char × List Char)
  | [] => if part.isEmpty then some ([], []) else none
  | c :: cs =>
    if part.isPrefixOf (c :: cs) then some ([], (c :: cs).drop part.length)
    else (cutAt part cs).map fun (before, after) => (c :: before, after)

/-- Pieces joined by a separator. -/
def joinWith (sep : List Char) : List (List Char) → List Char
  | [] => []
  | [piece] => piece
  | piece :: pieces => piece ++ sep ++ joinWith sep pieces

end Scaffold.Text
