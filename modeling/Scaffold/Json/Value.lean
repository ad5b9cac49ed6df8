import Scaffold.Decimal.Shortest
import Scaffold.Decimal.Reading
import Scaffold.Text.Wide

/-!
# JSON values

Values as a text holds them: whole numbers and doubles are different, and an object keeps its
keys in order, each once (`ofFields`). `display` writes a value the way prompts show it.

A `Raw` value is one as it is read, before its texts are made strings (`Raw.toJson`).
-/

namespace Scaffold

/-- A JSON value. -/
inductive Json
  | null
  | bool (b : Bool)
  | int (n : Int)
  | float (x : Float)
  | text (s : String)
  | array (items : List Json)
  | object (fields : List (String × Json))

namespace Json

instance : Inhabited Json := ⟨null⟩

/-- The value of a key of an association list. -/
def lookup (key : String) : List (String × Json) → Option Json
  | [] => none
  | (k, v) :: fields => if k == key then some v else lookup key fields

/-- Give a key its value: in its place if it is there, else at the end. -/
def insertField (key : String) (value : Json) : List (String × Json) → List (String × Json)
  | [] => [(key, value)]
  | (k, v) :: fields =>
    if k == key then (k, value) :: fields else (k, v) :: insertField key value fields

/-- An object of fields in the order of their first keys, where the last value of a key counts. -/
def ofFields (fields : List (String × Json)) : Json :=
  object (fields.foldl (fun seen (k, v) => insertField k v seen) [])

/-- The value of an object's key. -/
def field? (v : Json) (key : String) : Option Json :=
  match v with
  | object fields => lookup key fields
  | _ => none

/-- The text of a text. -/
def text? : Json → Option String
  | text s => some s
  | _ => none

/-- How displayed doubles are written. -/
def numberStyle : Decimal.Style := ⟨-4, 16, 2, "inf", "nan"⟩

/-- Pieces with `, ` between them. -/
def listed (pieces : List String) : String :=
  ", ".intercalate pieces

mutual

/-- A value as shown inside another one: texts are quoted. -/
def display : Json → String
  | null => "None"
  | bool true => "True"
  | bool false => "False"
  | int n => Decimal.digitsOf n
  | float x => Decimal.render numberStyle x
  | text s => Text.quoted s
  | array items => "[" ++ listed (displayItems items) ++ "]"
  | object fields => "\x7b" ++ listed (displayFields fields) ++ "\x7d"

/-- The items of an array, displayed. -/
def displayItems : List Json → List String
  | [] => []
  | v :: vs => display v :: displayItems vs

/-- The fields of an object, displayed. -/
def displayFields : List (String × Json) → List String
  | [] => []
  | (k, v) :: fields => (Text.quoted k ++ ": " ++ display v) :: displayFields fields

end

/-- A value put into a text: a text as it is, any other value displayed. -/
def inserted : Json → String
  | text s => s
  | v => display v

/-- A value as it is read: a text may have halves of pairs, and an object has every field that is
written, those with the same key too. -/
inductive Raw
  | null
  | bool (b : Bool)
  | int (n : Int)
  | float (x : Float)
  | text (t : Text.Wide)
  | array (items : List Raw)
  | object (fields : List (Text.Wide × Raw))

namespace Raw

/-- The value of an object's key, the last one that is written. -/
def field? (v : Raw) (key : String) : Option Raw :=
  match v with
  | object fields => fields.reverse.lookup (.ofString key)
  | _ => none

/-- The text of a text. -/
def text? : Raw → Option Text.Wide
  | text t => some t
  | _ => none

mutual

/-- The value with strings for its texts. Strings have no halves of pairs, so that U+FFFD stands
for each of them here, where a reader of such values keeps them. -/
def toJson : Raw → Json
  | null => .null
  | bool b => .bool b
  | int n => .int n
  | float x => .float x
  | text t => .text t.shown
  | array items => .array (toItems items)
  | object fields => ofFields (toFields fields)

/-- The items of an array. -/
def toItems : List Raw → List Json
  | [] => []
  | v :: vs => v.toJson :: toItems vs

/-- The fields of an object. -/
def toFields : List (Text.Wide × Raw) → List (String × Json)
  | [] => []
  | (k, v) :: fields => (k.shown, v.toJson) :: toFields fields

end

end Raw

end Json

end Scaffold
