/-!
# Values of YAML texts

What a text says once its tags are read. A mapping keeps its entries as they are written; of two
with one key the later one counts (`Value.field?`).
-/

namespace Scaffold.Yaml

/-- A value. -/
inductive Value
  | null
  | bool (b : Bool)
  | int (n : Int)
  | float (x : Float)
  /-- the not-a-number that there is a word for -/
  | undefined
  | text (s : String)
  | bytes (content : List UInt8)
  /-- a date or a moment, as it is written -/
  | date (s : String)
  | list (items : List Value)
  | map (entries : List (Value × Value))
  | set (members : List Value)

namespace Value

/-- A collection cannot be a key. -/
def isCollection : Value → Bool
  | list _ | map _ | set _ => true
  | _ => false

/-- It is this text. -/
def isText (s : String) : Value → Bool
  | text t => s == t
  | _ => false

/-- What a text is mapped to. -/
def field? (key : String) : List (Value × Value) → Option Value
  | [] => none
  | (k, v) :: entries =>
    match field? key entries with
    | some v => some v
    | none => if k.isText key then some v else none

/-- It says nothing: null, false, zero, or something without parts. -/
def isNothing : Value → Bool
  | null => true
  | bool b => !b
  | int n => n == 0
  | float x => x == 0
  | undefined => false
  | text s => s.isEmpty
  | bytes content => content.isEmpty
  | date _ => false
  | list items => items.isEmpty
  | map entries => entries.isEmpty
  | set members => members.isEmpty

end Value

end Scaffold.Yaml
