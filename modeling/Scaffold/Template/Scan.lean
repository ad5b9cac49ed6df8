import Scaffold.Template.Grammar

/-!
# Scanning a template

A placeholder ends at two closing braces and holds no other closing brace. So what stands between
two closing braces, a stretch, holds the opening of at most one token, and the scan goes stretch
by stretch:

* `openings` - where in a stretch double braces open, with the body each leaves
* `best?` - the placeholder of a stretch: the first grammar that takes some body, and of the
  bodies it takes the longest
* `scan` - the tokens of a template, in order
-/

namespace Scaffold.Template
open Scaffold.Text

/-- The places of a stretch where double braces open, and what follows the braces. -/
def openings : List Char → List (Nat × List Char)
  | [] => []
  | '\x7b' :: '\x7b' :: cs =>
    (0, cs) :: (openings ('\x7b' :: cs)).map fun (i, body) => (i + 1, body)
  | _ :: cs => (openings cs).map fun (i, body) => (i + 1, body)

/-- The placeholder of a stretch that two closing braces follow, and where its braces open. -/
def best? (stretch : List Char) : Option (Nat × Placeholder) :=
  grammars.findSome? fun grammar =>
    (openings stretch).findSome? fun (i, body) => (grammar body).map fun p => (i, p)

/-- The token of a stretch that starts at `place` and that two closing braces follow. -/
def stretchToken? (place : Nat) (stretch : List Char) : Option Token :=
  (best? stretch).map fun (i, placeholder) =>
    ⟨placeholder, String.ofList (stretch.drop i ++ ['\x7d', '\x7d']), place + i⟩

/-- The tokens of stretches with a closing brace between each two, the first starting at `place`.
An empty stretch between two others stands for a second closing brace. -/
def stretchTokens (place : Nat) : List (List Char) → List Token
  | [] => []
  | [_] => []
  | stretch :: next :: rest =>
    let tokens := stretchTokens (place + stretch.length + 1) (next :: rest)
    if next.isEmpty && !rest.isEmpty then (stretchToken? place stretch).toList ++ tokens
    else tokens

/-- The tokens of a text, in order. -/
def scanChars (cs : List Char) : List Token :=
  stretchTokens 0 (splitOn '\x7d' cs)

/-- The tokens of a template, in order. -/
def scan (template : String) : List Token :=
  scanChars template.toList

/-- The tokens that selections fill. -/
def choiceTokens (template : String) : List Token :=
  (scan template).filter Token.isChoice

/-- Names without those already there. -/
def addNew (seen : List String) (name : String) : List String :=
  if seen.contains name then seen else seen ++ [name]

/-- The names of the simple placeholders, each once, in order of first occurrence. -/
def placeholderNames (template : String) : List String :=
  (scan template).foldl
    (fun seen t =>
      match t.placeholder with
      | .simple name => addNew seen name
      | _ => seen) []

end Scaffold.Template
