import Scaffold.Orchestration.PromptRun
import Scaffold.Service.Payload

/-!
# Answers

An answer is a status and a value (`Answer`). Each kind of result has one form as a value.
-/

namespace Scaffold.Service
open Scaffold.Orchestration

/-- What is sent back. -/
structure Answer where
  status : Nat
  body : Json

namespace Answer

/-- A result. -/
def ok (body : Json) : Answer := ⟨200, body⟩

/-- An answer that says in words why there is no result. -/
def because (status : Nat) (reason : String) : Answer :=
  ⟨status, .object [("detail", .text reason)]⟩

/-- The answer to a path that nothing is found at. -/
def notFound : Answer := because 404 "Not Found"

/-- The answer to a method that is not used at a path. -/
def wrongMethod : Answer := because 405 "Method Not Allowed"

/-- The answer to a body whose text cannot be read. -/
def unreadable : Answer := because 400 "There was an error parsing the body"

/-- The answer to a body with faults. -/
def rejected (faults : List Fault) : Answer :=
  ⟨422, .object [("detail", .array (faults.map Fault.toJson))]⟩

end Answer

/-- Texts as a value. -/
def textsJson (l : List String) : Json := .array (l.map .text)

/-- A text or nothing as a value. -/
def optionJson : Option String → Json
  | some s => .text s
  | none => .null

/-- A token as a value: each field is there, whatever the token's grammar has. -/
def tokenJson (t : Template.Token) : Json :=
  let p := t.placeholder
  .object
    [("kind", .text p.kind), ("raw", .text t.raw), ("start", .int t.start), ("end", .int t.stop),
      ("name", optionJson p.name?), ("options", textsJson (p.options?.getD [])),
      ("default", optionJson p.default?), ("prompt", optionJson p.prompt?)]

/-- A path that failed as a value. -/
def failedJson (f : Generation.FailedPath) : Json :=
  .object [("path", .text f.path), ("reason", .text f.reason)]

/-- An item of a plan as a value. -/
def itemJson (item : Plan.Item) : Json :=
  .object [("path", .text item.path), ("kind", .text item.kind.name)]

/-- The tokens and names of a template as a value. -/
def templateJson (template : String) : Json :=
  .object
    [("tokens", .array ((Template.scan template).map tokenJson)),
      ("placeholders", textsJson (Template.placeholderNames template))]

/-- A plan, and what became of its items, as a value. -/
def pathsJson (o : PathsOutcome) : Json :=
  .object
    [("items", .array (o.plan.items.map itemJson)), ("fallback", .bool o.plan.fallback),
      ("reason", optionJson o.plan.reason), ("created", textsJson o.made.created),
      ("failed", .array (o.made.failed.map failedJson))]

/-- What a run came to as a value. -/
def promptJson (o : PromptOutcome) : Json :=
  let r := o.result
  .object
    [("prompt", .text o.prompt), ("targets", textsJson o.targets),
      ("plan_fallback", .bool o.plan.fallback), ("created", textsJson r.created),
      ("overwritten", textsJson r.overwritten), ("skipped", textsJson r.skipped),
      ("failed", .array (r.failed.map failedJson)), ("fallbacks", textsJson r.fallbacks),
      ("summary", .text r.summary)]

end Scaffold.Service
