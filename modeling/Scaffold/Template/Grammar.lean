import Scaffold.Template.Token
import Scaffold.Text.Blank
import Scaffold.Text.Split
import Scaffold.Text.Word

/-!
# The five placeholder grammars

A body is the text between the double braces; it holds no closing brace. Each grammar takes some
bodies and refuses the others:

* named choice - a name, `:`, options, and after `|` a default
* anonymous choice - options, and after `|` a default
* radio - the word `radio`, `|`, options, and after `|` a default
* AI input - the word `ai`, `|`, a prompt, and after `|` a default
* simple - a name

`grammars` lists them in order of precedence.
-/

namespace Scaffold.Template
open Scaffold.Text

/-- A character of a choice's name. -/
def isNameChar (c : Char) : Bool :=
  isWord c || c == '.' || c == '-'

/-- Some comma has text on both sides. -/
def hasInnerComma (cs : List Char) : Bool :=
  (cs.drop 1).dropLast.contains ','

/-- The options between the commas, trimmed. -/
def optionsOf (cs : List Char) : List String :=
  (splitOn ',' cs).map fun piece => String.ofList (trim piece)

/-- A default after the last bar: none without the bar, and not empty with it. -/
def defaultOf? : Option (List Char) → Option (Option String)
  | none => some none
  | some [] => none
  | some cs => some (some (String.ofList (trim cs)))

/-- Options and a default. -/
def choiceOf? (cs : List Char) : Option (List String × Option String) := do
  let (front, rest) := cut '|' cs
  let default ← defaultOf? rest
  if hasInnerComma front then return (optionsOf front, default) else none

/-- The text after a word and a bar. -/
def afterWord? (word : String) (cs : List Char) : Option (List Char) :=
  match cut '|' cs with
  | (front, some rest) => if trim front == word.toList then some rest else none
  | (_, none) => none

/-- A name, a colon and a choice. -/
def named? (body : List Char) : Option Placeholder :=
  match cut ':' body with
  | (front, some rest) =>
    let name := trim front
    if name.isEmpty || !name.all isNameChar then none
    else (choiceOf? rest).map fun (options, default) => .named (String.ofList name) options default
  | (_, none) => none

/-- A choice whose options hold neither an opening brace nor a colon. -/
def anonymous? (body : List Char) : Option Placeholder :=
  let front := (cut '|' body).1
  if front.contains '\x7b' || front.contains ':' then none
  else (choiceOf? body).map fun (options, default) => .anonymous options default

/-- The word `radio`, a bar and a choice. -/
def radio? (body : List Char) : Option Placeholder := do
  let rest ← afterWord? "radio" body
  let (options, default) ← choiceOf? rest
  return .radio options default

/-- The word `ai`, a bar, a prompt and a default. -/
def ai? (body : List Char) : Option Placeholder := do
  let rest ← afterWord? "ai" body
  let (prompt, rest) := cut '|' rest
  let default ← defaultOf? rest
  if prompt.isEmpty then none else return .ai (String.ofList (trim prompt)) default

/-- Names that no simple placeholder has. -/
def reservedNames : List String := ["radio", "ai"]

/-- A character that no simple placeholder holds. -/
def isStructural (c : Char) : Bool :=
  c == '\x7b' || c == ':' || c == '|' || c == ','

/-- A name that is not reserved. -/
def simple? (body : List Char) : Option Placeholder :=
  let name := String.ofList (trim body)
  if body.any isStructural || name.isEmpty || reservedNames.contains name then none
  else some (.simple name)

/-- The grammars, highest precedence first. -/
def grammars : List (List Char → Option Placeholder) :=
  [named?, anonymous?, radio?, ai?, simple?]

end Scaffold.Template
