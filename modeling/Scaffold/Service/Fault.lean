import Scaffold.Json.Value

/-!
# What is wrong with the body of a request

A `Fault` is a complaint about a part of a body, together with the way from the body to that part.
A rejection lists all faults of a body in order.
-/

namespace Scaffold.Service

/-- One step on the way to a part of a value. -/
inductive Turn
  | key (name : String)
  | place (i : Nat)
deriving Repr, DecidableEq

/-- A step as a value. -/
def Turn.toJson : Turn → Json
  | key name => .text name
  | place i => .int i

/-- What is wrong with a part of a body. -/
inductive Complaint
  /-- nothing is there -/
  | missing
  /-- the body is no JSON text -/
  | notJson
  /-- the body is a value without fields -/
  | notFields
  | notText
  | notList
  | notMapping
  /-- a value that stands for neither truth value -/
  | notBoolean
  /-- a text or a number that might stand for a truth value, but does not -/
  | unreadBoolean
  /-- a text that is no whole number -/
  | unreadInteger
  /-- a whole number with too many digits -/
  | longInteger
  /-- a value outside a fixed list -/
  | notListed
deriving Repr, DecidableEq

/-- The name of a complaint. -/
def Complaint.name : Complaint → String
  | missing => "missing"
  | notJson => "json_invalid"
  | notFields => "model_attributes_type"
  | notText => "string_type"
  | notList => "list_type"
  | notMapping => "dict_type"
  | notBoolean => "bool_type"
  | unreadBoolean => "bool_parsing"
  | unreadInteger => "int_parsing"
  | longInteger => "int_parsing_size"
  | notListed => "enum"

/-- A complaint about a part of a body. -/
structure Fault where
  /-- the way to the part, from the outside in -/
  way : List Turn
  complaint : Complaint
deriving Repr, DecidableEq

namespace Fault

/-- A fault seen from one step further out. -/
def under (turn : Turn) (f : Fault) : Fault :=
  { f with way := turn :: f.way }

/-- A fault as a value. -/
def toJson (f : Fault) : Json :=
  .object [("loc", .array (f.way.map Turn.toJson)), ("type", .text f.complaint.name)]

end Fault

end Scaffold.Service
