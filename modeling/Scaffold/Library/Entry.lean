import Scaffold.Failure
import Scaffold.Json.Value
import Scaffold.Decimal.Number
import Scaffold.Text.Case
import Scaffold.Text.Split

/-!
# Stored templates

A stored template has an identifier and a name; names are told apart without regard to case. Here
are the rules of a list of stored templates: how a key finds one (`find?`), which names are free
(`checkName`), what a search finds (`search`), and the form in which they are kept (`toJson`,
`ofJson?`).
-/

namespace Scaffold.Library

/-- A stored template. -/
structure Entry where
  id : String
  name : String
  description : String
  content : String
  createdAt : String
  updatedAt : String
deriving Repr, DecidableEq

/-- The longest preview unless something else is said. -/
def previewLength : Int := 200

/-- The first characters of a text; of a negative count, all but so many. -/
def takeSigned (n : Int) (cs : List Char) : List Char :=
  if 0 ≤ n then cs.take n.toNat else cs.take (cs.length - n.natAbs)

/-- The start of the content, with dots if something is cut off. -/
def Entry.preview (e : Entry) (length : Int) : String :=
  if length < e.content.length then String.ofList (takeSigned length e.content.toList) ++ "..."
  else e.content

/-- The entry with an identifier, or else with a name. -/
def find? (entries : List Entry) (key : String) : Option Entry :=
  let name := Text.lower (Text.strip key)
  (entries.find? fun e => e.id == key).or
    (entries.find? fun e => Text.lower e.name == name)

/-- The entry of a key, or the failure of an unknown key. -/
def fetch (entries : List Entry) (key : String) : Except Failure Entry :=
  match find? entries key with
  | some e => .ok e
  | none => .error (.store (.notFound key))

/-- A name, trimmed, that no entry has but the one with the identifier `except`. -/
def checkName (entries : List Entry) (name : String) (except : Option String) :
    Except Failure String :=
  let cleaned := Text.strip name
  if cleaned.isEmpty then .error (.store .nameRequired)
  else if entries.any fun e =>
      some e.id != except && Text.lower e.name == Text.lower cleaned then
    .error (.store .nameTaken)
  else .ok cleaned

/-- Content that says something. -/
def checkContent (content : String) : Except Failure Unit :=
  if Text.isBlankText content then .error (.store .contentRequired) else .ok ()

/-- A text occurs in another one without regard to case. -/
def mentions (text term : String) : Bool :=
  Text.contains (Text.lower term).toList (Text.lower text).toList

/-- The entries that mention a term; none for a blank term. -/
def search (entries : List Entry) (term : String) : List Entry :=
  let term := Text.strip term
  if term.isEmpty then []
  else
    entries.filter fun e =>
      mentions e.name term || mentions e.description term || mentions e.content term

/-- Changes to an entry; what is left out stays. -/
structure Changes where
  name : Option String := none
  description : Option String := none
  content : Option String := none

/-- The changes that an entry may have, with names and descriptions trimmed. -/
def Changes.check (c : Changes) (entries : List Entry) (current : Entry) :
    Except Failure Changes := do
  let name ← c.name.mapM fun name => checkName entries name (some current.id)
  c.content.forM checkContent
  return { c with name := name, description := c.description.map Text.strip }

/-- An entry with changes. -/
def Changes.apply (c : Changes) (e : Entry) (updatedAt : String) : Entry :=
  { e with
    name := c.name.getD e.name
    description := c.description.getD e.description
    content := c.content.getD e.content
    updatedAt := updatedAt }

/-- Entries with those of one identifier replaced. -/
def replace (entries : List Entry) (e : Entry) : List Entry :=
  entries.map fun old => if old.id == e.id then e else old

/-- Entries without those of some identifiers. -/
def without (entries : List Entry) (ids : List String) : List Entry :=
  entries.filter fun e => !ids.contains e.id

/-- An entry as it is kept. -/
def Entry.toJson (e : Entry) : Json :=
  .object [("id", .text e.id), ("name", .text e.name), ("description", .text e.description),
    ("content", .text e.content), ("created_at", .text e.createdAt),
    ("updated_at", .text e.updatedAt)]

/-- The entry of a value with six texts. -/
def Entry.ofJson? (v : Json) : Option Entry := do
  let text (key : String) : Option String := (v.field? key).bind Json.text?
  return ⟨← text "id", ← text "name", ← text "description", ← text "content",
    ← text "created_at", ← text "updated_at"⟩

/-- The version of the form in which entries are kept. -/
def version : Number := .int 1

/-- Entries as they are kept. -/
def toJson (entries : List Entry) : Json :=
  .object [("version", version.toJson), ("templates", .array (entries.map Entry.toJson))]

/-- A kept value is of this version. -/
def hasVersion (v : Json) : Bool :=
  match (v.field? "version").bind Number.ofJson? with
  | some n => n.same version
  | none => false

/-- The entries of a kept value; what is no entry is left out. -/
def ofJson (v : Json) : List Entry :=
  match v.field? "templates" with
  | some (.array items) => items.filterMap Entry.ofJson?
  | _ => []

end Scaffold.Library
