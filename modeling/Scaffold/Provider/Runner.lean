import Scaffold.Config.Llm
import Scaffold.Json.Failure
import Scaffold.Json.Printer
import Scaffold.Log.Record
import Scaffold.Provider.Transport
import Scaffold.Reply.Basic

/-!
# Runners

A runner sends prompts to a text-generation provider, with the settings it was built with
(`Runner.build`): given ones first, then the environment, then defaults. `Runner.overWeb` speaks the
chat-completion protocol over a transport.
-/

namespace Scaffold.Provider

/-- Environment variables. -/
abbrev Environment := List (String × String)

/-- The value of the first variable that is set and not empty. -/
def Environment.first? (env : Environment) (names : List String) : Option String :=
  (names.filterMap fun name => env.lookup name).find? fun value => !value.isEmpty

/-- What a runner is built from; a temperature and a timeout that are left out have defaults. -/
structure Options where
  model : Option String := none
  baseUrl : Option String := none
  apiKey : Option String := none
  temperature : Option Number := some (.float (Decimal.nearest false 2 10))
  maxTokens : Option Number := none
  requestTimeout : Option Number := some (.float (Decimal.nearest false 60 1))

/-- The settings of a runner. -/
structure Settings where
  model : String
  baseUrl : String
  apiKey : Option String
  temperature : Option Number
  maxTokens : Option Number
  requestTimeout : Option Number

/-- A prompt with all that is needed to send it. -/
structure Request where
  prompt : String
  system : Option String
  jsonMode : Bool
  settings : Settings

/-- Settings, and a way to have requests answered. -/
structure Runner (ρ : Type) where
  settings : Settings
  send : Request → StateM ρ (Except Failure Reply)

/-- The model when nothing names one. -/
def defaultModel : String := "gpt-4.1-mini"

/-- The address when nothing names one. -/
def defaultBaseUrl : String := "https://api.openai.com/v1"

/-- A text without slashes at its end. -/
def dropSlashes (s : String) : String :=
  String.ofList (s.toList.reverse.dropWhile (· == '/')).reverse

/-- A text that is there and not empty. -/
def given (s : Option String) : Option String :=
  s.filter fun s => !s.isEmpty

/-- The model: the one given, else the environment's, else the default. -/
def resolveModel (env : Environment) (model : Option String) : String :=
  ((given model).or (env.first? ["PATHGEN_LLM_MODEL", "OPENAI_MODEL"])).getD defaultModel

/-- The address: the one given, else the environment's, else the default; no slash at its end. -/
def resolveBaseUrl (env : Environment) (baseUrl : Option String) : String :=
  match (given baseUrl).or (env.first? ["PATHGEN_LLM_BASE_URL", "OPENAI_BASE_URL"]) with
  | some url => dropSlashes url
  | none => defaultBaseUrl

/-- The key: the one given, trimmed and none if it is blank, else the environment's. -/
def resolveApiKey (env : Environment) : Option String → Option String
  | some key => given (some (Text.strip key))
  | none => env.first? ["PATHGEN_LLM_API_KEY", "OPENAI_API_KEY"]

/-- The settings that options and the environment give. -/
def Settings.of (env : Environment) (o : Options) : Settings where
  model := resolveModel env o.model
  baseUrl := resolveBaseUrl env o.baseUrl
  apiKey := resolveApiKey env o.apiKey
  temperature := o.temperature
  maxTokens := o.maxTokens
  requestTimeout := o.requestTimeout

/-- The headers of every request. -/
def headers (apiKey : Option String) : List (String × String) :=
  ("Content-Type", "application/json") ::
    match apiKey with
    | some key => [("Authorization", "Bearer " ++ key)]
    | none => []

/-- A message of a conversation. -/
def chatMessage (role content : String) : Json :=
  .object [("role", .text role), ("content", .text content)]

/-- The conversation that a request starts. -/
def messages (r : Request) : Json :=
  let system :=
    match given r.system with
    | some s => [chatMessage "system" s]
    | none => []
  .array (system ++ [chatMessage "user" r.prompt])

/-- A number as a field, if it is there. -/
def numberField (name : String) (n : Option Number) : List (String × Json) :=
  match n with
  | some n => [(name, n.toJson)]
  | none => []

/-- The body of a request. -/
def payload (r : Request) : Json :=
  let format :=
    if r.jsonMode then [("response_format", .object [("type", .text "json_object")])] else []
  .object ([("model", .text r.settings.model), ("messages", messages r)] ++ format ++
    numberField "temperature" r.settings.temperature ++
    numberField "max_tokens" r.settings.maxTokens)

/-- How long a reply is waited for: as set, or a minute. -/
def timeoutOf (timeout : Option Number) : Number :=
  match timeout with
  | some n => if n.isZero then .float (Decimal.nearest false 60 1) else n
  | none => .float (Decimal.nearest false 60 1)

/-- The value of a body, as it is read. -/
def readBody (content : ByteArray) : Except Failure Json.Raw :=
  match String.fromUTF8? content with
  | none => .error (.provider .invalidJson)
  | some s => (Json.read s).mapError (Json.Fault.failure (.provider .invalidJson))

/-- The body of a reply, or why there is none. -/
def WebReply.content : WebReply → Except Failure ByteArray
  | body content => .ok content
  | status code name content =>
    let detail := Text.strip (Text.decodeSkipping content)
    .error (.provider (.status code (if detail.isEmpty then name else detail)))
  | unreachable reason => .error (.provider (.unreachable reason))
  | broken failure => .error failure

/-- The first choice of a completion. -/
def firstChoice? (v : Json.Raw) : Option Json.Raw :=
  match v.field? "choices" with
  | some (.array (first :: _)) => some first
  | _ => none

/-- The text of a completion: that of the first choice's message, else its own. -/
def completionText (v : Json.Raw) : Text.Wide :=
  match firstChoice? v with
  | none => []
  | some choice =>
    match (choice.field? "message").bind fun message => message.field? "content" with
    | some (.text t) => t
    | _ => ((choice.field? "text").bind Json.Raw.text?).getD []

/-- The reply to a prompt. -/
def completion (content : ByteArray) : Except Failure Reply := do
  let text := completionText (← readBody content)
  if text.isEmpty then throw (.provider .noContent) else return .ofWide text.strip

/-- The identifiers of a list of models, sorted. -/
def modelIds (v : Json) : Except Failure (List String) :=
  match v with
  | .object _ =>
    match v.field? "data" with
    | some (.array items) =>
      let ids := items.filterMap fun item => (item.field? "id").bind Json.text?
      .ok ((ids.filter fun id => !id.isEmpty).mergeSort fun a b => a ≤ b)
    | _ => .error (.provider .unexpectedListing)
  | _ => .error (.provider .unexpectedPayload)

section

variable {ρ : Type}

/-- Send a web request and take the body of the reply. -/
def exchange (transport : Transport ρ) (url method : String) (settings : Settings)
    (body : Option String) : StateM ρ (Except Failure ByteArray) := do
  match Url.check url with
  | .error f => return .error f
  | .ok url =>
    let request : WebRequest :=
      ⟨url, method, headers settings.apiKey, body, timeoutOf settings.requestTimeout⟩
    return (← transport request).content

/-- Have a request answered by a chat completion. -/
def complete (transport : Transport ρ) (r : Request) : StateM ρ (Except Failure Reply) := do
  match Json.write .wire (payload r) with
  | .error f => return .error f
  | .ok body =>
    let url := r.settings.baseUrl ++ "/chat/completions"
    match ← exchange transport url "POST" r.settings (some body) with
    | .ok content => return completion content
    | .error f => return .error f

/-- A runner over a transport; it needs a key. -/
def Runner.overWeb (transport : Transport ρ) (env : Environment) (o : Options) :
    Except Failure (Runner ρ) :=
  let settings := Settings.of env o
  if settings.apiKey.isSome then .ok ⟨settings, complete transport⟩
  else .error (.provider .noKey)

/-- A runner whose requests are answered some other way. -/
def Runner.custom (send : Request → StateM ρ (Except Failure Reply)) (env : Environment)
    (o : Options) : Runner ρ :=
  ⟨Settings.of env o, send⟩

/-- Send a prompt. -/
def Runner.run [Log.Journal ρ] (runner : Runner ρ) (prompt : String) (system : Option String)
    (jsonMode : Bool) : StateM ρ (Except Failure Reply) := do
  let mode := if jsonMode then "JSON" else "text"
  Log.note .debug "llm" s!"Sending {mode} request to {runner.settings.model}"
  runner.send ⟨prompt, system, jsonMode, runner.settings⟩

/-- The models that the provider offers. -/
def Runner.listModels (transport : Transport ρ) (runner : Runner ρ) :
    StateM ρ (Except Failure (List String)) := do
  match ← exchange transport (runner.settings.baseUrl ++ "/models") "GET" runner.settings none with
  | .error f => return .error f
  | .ok content => return (readBody content).bind fun v => modelIds v.toJson

end

end Scaffold.Provider
