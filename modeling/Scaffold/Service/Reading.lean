import Scaffold.Plan.Path
import Scaffold.Service.Integer
import Scaffold.Template.Fill

/-!
# Reading the parts of a body

A part of a body is read, or refused with everything that is wrong with it (`Reading`). Readings
side by side are both done, and their faults come one after the other.

* `field`, `fieldOr` - a part by its key
* `text`, `boolean`, `kind`, `selection` - single values
* `listOf`, `mapping`, `orNull` - values made of others
-/

namespace Scaffold.Service

/-- A part that was read, or all that is wrong with it. -/
inductive Reading (α : Type)
  | read (value : α)
  | refused (faults : List Fault)

namespace Reading

variable {α β : Type}

/-- What is wrong. -/
def faults : Reading α → List Fault
  | read _ => []
  | refused faults => faults

/-- Change what is read. -/
def map (f : α → β) : Reading α → Reading β
  | read a => read (f a)
  | refused faults => refused faults

/-- Read two parts, the first of which changes the second one. -/
def apply : Reading (α → β) → Reading α → Reading β
  | read f, a => a.map f
  | refused fs, a => refused (fs ++ a.faults)

instance : Applicative Reading where
  pure := read
  map := map
  seq f a := f.apply (a ())

/-- A part seen from one step further out. -/
def under (turn : Turn) : Reading α → Reading α
  | read a => read a
  | refused faults => refused (faults.map (Fault.under turn))

/-- A part with one thing wrong with it. -/
def refuse (complaint : Complaint) : Reading α := refused [⟨[], complaint⟩]

/-- A result that may be a complaint. -/
def ofExcept : Except Complaint α → Reading α
  | .ok a => read a
  | .error complaint => refuse complaint

/-- A part by its key, which must be there. -/
def field (name : String) (reader : Json → Reading α) (body : Json) : Reading α :=
  under (.key name) <|
    match body.field? name with
    | some v => reader v
    | none => refuse .missing

/-- A part by its key, with a value for one that is not there. -/
def fieldOr (name : String) (default : α) (reader : Json → Reading α) (body : Json) : Reading α :=
  match body.field? name with
  | some v => under (.key name) (reader v)
  | none => read default

/-- A text. -/
def text : Json → Reading String
  | .text s => read s
  | _ => refuse .notText

/-- The words for a truth value. -/
def words : Bool → List String
  | true => ["1", "t", "y", "on", "yes", "true"]
  | false => ["0", "f", "n", "no", "off", "false"]

/-- The truth value of a word in any case. -/
def word? (s : String) : Option Bool :=
  let s := s.map Char.toLower
  [true, false].find? fun b => (words b).contains s

/-- A number that is neither one nor zero, which counts as misread if it is whole and small. -/
def otherNumber (isCount : Bool) : Reading Bool :=
  refuse (if isCount then .unreadBoolean else .notBoolean)

/-- A truth value: as it is, as a word, or as a one or a zero. -/
def boolean : Json → Reading Bool
  | .bool b => read b
  | .text s =>
    match word? s with
    | some b => read b
    | none => refuse .unreadBoolean
  | .int n =>
    if n == 0 then read false
    else if n == 1 then read true
    else otherNumber (-9223372036854775808 ≤ n && n < 9223372036854775808)
  | .float x =>
    if x == 0 then read false
    else if x == 1 then read true
    else otherNumber (x.floor == x && x.abs < 9223372036854775808)
  | _ => refuse .notBoolean

/-- The name of a kind of path. -/
def kind : Json → Reading Plan.Kind
  | .text s =>
    match Plan.Kind.ofName? s with
    | some k => read k
    | none => refuse .notListed
  | _ => refuse .notListed

/-- A part that may be empty. -/
def orNull (reader : Json → Reading α) : Json → Reading (Option α)
  | .null => read none
  | v => (reader v).map some

/-- The items of a list from the place `i` on. -/
def itemsFrom (reader : Json → Reading α) (i : Nat) : List Json → Reading (List α)
  | [] => read []
  | v :: vs => List.cons <$> under (.place i) (reader v) <*> itemsFrom reader (i + 1) vs

/-- A list. -/
def listOf (reader : Json → Reading α) : Json → Reading (List α)
  | .array items => itemsFrom reader 0 items
  | _ => refuse .notList

/-- A key and its value. -/
def entry (key : String → Except Complaint α) (reader : Json → Reading β) (e : String × Json) :
    Reading (α × β) :=
  under (.key e.1) (Prod.mk <$> under (.key "[key]") (ofExcept (key e.1)) <*> reader e.2)

/-- The keys and values of an object. -/
def entries (key : String → Except Complaint α) (reader : Json → Reading β) :
    List (String × Json) → Reading (List (α × β))
  | [] => read []
  | e :: es => List.cons <$> entry key reader e <*> entries key reader es

/-- An object as a mapping. -/
def mapping (key : String → Except Complaint α) (reader : Json → Reading β) :
    Json → Reading (List (α × β))
  | .object fields => entries key reader fields
  | _ => refuse .notMapping

/-- A selection: one text, or a list of them. A value that is neither is refused as both. -/
def selection (v : Json) : Reading Template.Selection :=
  match text v, listOf text v with
  | read s, _ => read (.text s)
  | _, read items => read (.picks items)
  | refused fs, refused gs =>
    refused (fs.map (Fault.under (.key "str")) ++ gs.map (Fault.under (.key "list[str]")))

end Reading

end Scaffold.Service
