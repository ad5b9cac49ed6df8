import Scaffold.Json.Failure
import Scaffold.Service.Reading

/-!
# The bodies of requests

What each request holds (`TemplatePayload`, `ResolvePayload`, `PlanPayload`, `GeneratePayload`),
and how it is read from the text of a body (`readBody`). Fields that no request has are overlooked.
-/

namespace Scaffold.Service

/-- Selections by the place of their token; of two for one place the later one counts. -/
abbrev Picks := List (Int × Template.Selection)

/-- The selection for a place. -/
def Picks.at (picks : Picks) (i : Nat) : Template.Selection :=
  (picks.reverse.lookup (Int.ofNat i)).getD .absent

/-- A template to be read. -/
structure TemplatePayload where
  template : String

/-- A template to be filled. -/
structure ResolvePayload where
  template : String
  selections : Picks := []
  values : Template.Values := []

/-- Instructions to be planned. -/
structure PlanPayload where
  path : String
  instructions : String
  kinds : Option (List Plan.Kind) := none
  /-- make the paths of the plan -/
  create : Bool := false
  /-- the paths that are made, if not all of them -/
  paths : Option (List String) := none

/-- A template to be run. -/
structure GeneratePayload where
  path : String
  template : String
  selections : Picks := []
  values : Template.Values := []
  /-- the files, if none are to be planned -/
  paths : Option (List String) := none
  overwrite : Option Bool := none

namespace Reading

/-- Selections by place. -/
def picks : Json → Reading Picks := mapping integer selection

/-- Texts by name. -/
def namedTexts : Json → Reading Template.Values := mapping .ok text

/-- A list of texts or nothing. -/
def texts? : Json → Reading (Option (List String)) := orNull (listOf text)

end Reading

open Reading

/-- Read a template to be read. -/
def TemplatePayload.read (body : Json) : Reading TemplatePayload :=
  TemplatePayload.mk <$> field "template" text body

/-- Read a template to be filled. -/
def ResolvePayload.read (body : Json) : Reading ResolvePayload :=
  ResolvePayload.mk <$> field "template" text body <*> fieldOr "selections" [] picks body <*>
    fieldOr "values" [] namedTexts body

/-- Read instructions to be planned. -/
def PlanPayload.read (body : Json) : Reading PlanPayload :=
  PlanPayload.mk <$> field "path" text body <*> field "instructions" text body <*>
    fieldOr "kinds" none (orNull (listOf kind)) body <*> fieldOr "create" false boolean body <*>
    fieldOr "paths" none texts? body

/-- Read a template to be run. -/
def GeneratePayload.read (body : Json) : Reading GeneratePayload :=
  GeneratePayload.mk <$> field "path" text body <*> field "template" text body <*>
    fieldOr "selections" [] picks body <*> fieldOr "values" [] namedTexts body <*>
    fieldOr "paths" none texts? body <*> fieldOr "overwrite" none (orNull boolean) body

/-- What the text of a body is. -/
inductive BodyValue
  | value (v : Json)
  /-- no JSON text, from a place on -/
  | malformed (place : Nat)
  /-- a JSON text that is not read all the same -/
  | unreadable

/-- The value of a body; an empty body has none. -/
def bodyValue (body : String) : BodyValue :=
  if body.isEmpty then .value .null
  else
    let cs := body.toList
    let cs := if cs.head? == some '\ufeff' then cs.tail else cs
    match Json.parseChars cs with
    | .ok v => .value v
    | .error (.malformed left) => .malformed (cs.length - left)
    | .error _ => .unreadable

/-- Read the value of a body, which must have fields. -/
def readValue {α : Type} (reader : Json → Reading α) : Json → Reading α
  | .null => refuse .missing
  | .object fields => reader (.object fields)
  | _ => refuse .notFields

/-- Read a body; `none` if its text cannot be read at all. -/
def readBody {α : Type} (reader : Json → Reading α) (body : String) : Option (Reading α) :=
  match bodyValue body with
  | .value v => some (under (.key "body") (readValue reader v))
  | .malformed place => some (under (.key "body") (under (.place place) (refuse .notJson)))
  | .unreadable => none

end Scaffold.Service
