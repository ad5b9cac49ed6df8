import Scaffold.Service.Answer

/-!
# Answering requests

`Bench.answer` finds the route of a request, reads its body and does what it asks for. Failures of
the library's own stages become answers; others are failures of the service.
-/

namespace Scaffold.Service
open Scaffold.Orchestration

/-- A request. -/
structure Request where
  method : String
  path : String
  body : String

/-- What can be asked for. -/
inductive Route
  | health
  | scan
  | resolve
  | plan
  | generate
deriving Repr, DecidableEq

namespace Route

/-- All routes. -/
def all : List Route := [health, scan, resolve, plan, generate]

/-- The path of a route. -/
def path : Route → String
  | health => "/health"
  | scan => "/scan"
  | resolve => "/resolve"
  | plan => "/plan"
  | generate => "/generate"

/-- The method of a route. -/
def method : Route → String
  | health => "GET"
  | _ => "POST"

/-- The route of a path. Slashes at its end are overlooked, and so is what follows a question
mark. -/
def find? (path : String) : Option Route :=
  let cs := path.toList.takeWhile fun c => c != '?' && c != '#'
  let cs := (cs.reverse.dropWhile (· == '/')).reverse
  all.find? fun route => route.path.toList == cs

end Route

section

variable {ρ α : Type} [Log.Journal ρ]

/-- Fill a template without asking anyone. -/
def ResolvePayload.prompt (p : ResolvePayload) : Task ρ String := do
  let selections ← onDesk <|
    Template.collectSelections (Template.choiceTokens p.template) p.selections.at none
  return Template.resolve p.template selections p.values

/-- Plan instructions, and make the paths if that is asked for. -/
def PlanPayload.run (b : Bench ρ) (p : PlanPayload) : Task ρ PathsOutcome := do
  if p.create then
    let select : Plan.Selector :=
      match p.paths with
      | some paths => fun _ => paths
      | none => selectAll
    b.makePaths p.path p.instructions p.kinds select
  else return { plan := ← b.preview p.path p.instructions p.kinds }

/-- Run a template. -/
def GeneratePayload.run (b : Bench ρ) (p : GeneratePayload) : Task ρ PromptOutcome :=
  b.runPrompt
    { path := p.path, template := p.template, picks := p.selections.at, values := p.values
      targets := p.paths, overwrite := p.overwrite }

/-- Read a body and answer it. -/
def withBody (reader : Json → Reading α) (body : String) (answer : α → Task ρ Json) :
    Task ρ Answer := do
  match readBody reader body with
  | none => return .unreadable
  | some (.refused faults) => return .rejected faults
  | some (.read payload) => return .ok (← answer payload)

/-- Answer the body of a request on a route. -/
def Route.answer (b : Bench ρ) (body : String) : Route → Task ρ Answer
  | health => return .ok (.object [("status", .text "ok")])
  | scan => withBody TemplatePayload.read body fun p => return templateJson p.template
  | resolve =>
    withBody ResolvePayload.read body fun p =>
      return .object [("prompt", .text (← p.prompt))]
  | plan => withBody PlanPayload.read body fun p => return pathsJson (← p.run b)
  | generate => withBody GeneratePayload.read body fun p => return promptJson (← p.run b)

/-- A failure of the library's own stages as an answer. -/
def answered (r : Except Failure Answer) : Except Failure Answer :=
  match r with
  | .ok a => .ok a
  | .error f => if f.isDomain then .ok (.because 400 f.message) else .error f

/-- Answer a request. -/
def Request.answer (b : Bench ρ) (r : Request) : Task ρ Answer :=
  match Route.find? r.path with
  | none => return .notFound
  | some route =>
    if route.method == r.method.map Char.toUpper then
      ExceptT.mk (answered <$> (route.answer b r.body).run)
    else return .wrongMethod

end

end Scaffold.Service
