import Scaffold.Config.Llm
import Scaffold.Decimal.Reading
import Scaffold.Failure
import Scaffold.Plan.Path
import Scaffold.Text.Case
import Scaffold.Workspace.FileSystem
import Scaffold.Yaml.Value

/-!
# Settings

The settings of a workspace, and how they are read from the value of a configuration text
(`Settings.ofValue`). What is missing or of another type than expected says nothing; only a value
that is no mapping and kinds that are unknown are refused, and numbers too large for their use.
-/

namespace Scaffold.Config
open Scaffold.Workspace

/-- Settings of planning and generation. -/
structure Generation where
  overwrite : Bool := false
  /-- how many files a summary shows -/
  existingLimit : Int := defaultLimit
  kinds : List Plan.Kind := [.directory, .file]
  exclude : List String := defaultExcludes

/-- The settings of a workspace. -/
structure Settings where
  root : Location
  llm : Option Llm := none
  generation : Generation := {}
  /-- the file of the template store, if one is named -/
  store : Option Location := none

/-- Where the template store is unless a file is named. -/
def usualStore : Location := Location.parse ".pathgen/templates.json"

/-- The file of the template store. -/
def Settings.storeLocation (s : Settings) : Location :=
  s.store.getD (s.root.join usualStore)

/-- The settings as a given reading gives them. -/
def Settings.readAt (reading : Nat) (s : Settings) : Settings :=
  { s with llm := s.llm.map (Llm.readAt reading) }

/-- The name of the file that holds settings. -/
def fileName : String := ".pathgen.yml"

/-- The entries of a mapping; nothing else has any. -/
def entriesOf : Option Yaml.Value → List (Yaml.Value × Yaml.Value)
  | some (.map entries) => entries
  | _ => []

/-- A text, or a number or truth value as it is written. -/
def textOf? : Yaml.Value → Except Failure (Option String)
  | .text s => .ok (some s)
  | .bool b => .ok (some (Json.bool b).inserted)
  | .float x => .ok (some (Json.float x).inserted)
  | .undefined => .ok (some (Json.float Number.nan).inserted)
  | .int n =>
    if Decimal.tooLongToWrite n then .error .tooManyDigits
    else .ok (some (Json.int n).inserted)
  | _ => .ok none

/-- A double: a number, or the text of one. -/
def doubleOf? : Yaml.Value → Except Failure (Option Number)
  | .int n =>
    match Decimal.ofInt? n with
    | some x => .ok (some (.float x))
    | none => .error .overflow
  | .float x => .ok (some (.ofDouble x))
  | .undefined => .ok (some (.float Number.nan))
  | .text s => .ok ((Decimal.float? s).map .ofDouble)
  | _ => .ok none

/-- A whole number, or the text of one. -/
def wholeOf? : Yaml.Value → Option Int
  | .int n => some n
  | .text s => Decimal.int? s
  | _ => none

/-- A truth value, or a word for one. -/
def truthOf? : Yaml.Value → Option Bool
  | .bool b => some b
  | .text s =>
    let word := Text.lower (Text.strip s)
    if ["true", "yes", "1"].contains word then some true
    else if ["false", "no", "0"].contains word then some false
    else none
  | _ => none

/-- The texts of a list; one text is a list of one, and bytes are a list of numbers. -/
def textsOf : Yaml.Value → Except Failure (List String)
  | .text s => .ok [s]
  | .bytes content => .ok (content.map fun b => toString b.toNat)
  | .list items => do return (← items.mapM textOf?).filterMap id
  | _ => .ok []

/-- The kind that a word names. -/
def kindOf? (word : String) : Option Plan.Kind :=
  let word := Text.lower (Text.strip word)
  if ["dir", "dirs", "directory", "directories", "path", "paths"].contains word then
    some .directory
  else if ["file", "files"].contains word then some .file
  else none

/-- The kinds that words name, each once. -/
def kindsOfWords : List String → Except ConfigFault (List Plan.Kind)
  | [] => .error .noKinds
  | words => do
    let kinds ← words.mapM fun word =>
      match kindOf? word with
      | some kind => .ok kind
      | none => .error (.unknownKind word)
    return kinds.eraseDups

/-- The kinds of a list of words. -/
def kindsOf (v : Yaml.Value) : Except Failure (List Plan.Kind) := do
  (kindsOfWords (← textsOf v)).mapError .config

/-- What is said under a key. -/
def said {α : Type} (read : Yaml.Value → Except Failure (Option α))
    (entries : List (Yaml.Value × Yaml.Value)) (key : String) : Except Failure (Option α) :=
  match Yaml.Value.field? key entries with
  | some v => read v
  | none => .ok none

/-- The settings of the provider; `none` if nothing is said. -/
def llmOf (entries : List (Yaml.Value × Yaml.Value)) : Except Failure (Option Llm) := do
  let model ← said textOf? entries "model"
  let baseUrl ← said textOf? entries "base_url"
  let apiKey ← said textOf? entries "api_key"
  let temperature ← said doubleOf? entries "temperature"
  let maxTokens ← said (fun v => .ok (wholeOf? v)) entries "max_tokens"
  let requestTimeout ← said doubleOf? entries "request_timeout"
  let llm : Llm :=
    { model, baseUrl, apiKey, temperature, maxTokens := maxTokens.map .int, requestTimeout }
  return if llm.saysAnything then some llm else none

/-- A limit counts if it is positive. -/
def limitOf? (v : Yaml.Value) : Option Int :=
  (wholeOf? v).filter (0 < ·)

/-- The settings of planning and generation. -/
def generationOf (entries : List (Yaml.Value × Yaml.Value)) : Except Failure Generation := do
  let overwrite ← said (fun v => .ok (truthOf? v)) entries "overwrite"
  let limit ← said (fun v => .ok (limitOf? v)) entries "existing_path_limit"
  let kinds ← said (fun v => some <$> kindsOf v) entries "kinds"
  let exclude ← said (fun v => some <$> textsOf v) entries "exclude"
  let usual : Generation := {}
  return {
    overwrite := overwrite.getD usual.overwrite
    existingLimit := limit.getD usual.existingLimit
    kinds := kinds.getD usual.kinds
    exclude := exclude.getD usual.exclude }

/-- The file of the template store, seen from the root. -/
def storeOf (root : Location) (entries : List (Yaml.Value × Yaml.Value)) :
    Except Failure (Option Location) := do
  match ← said textOf? entries "store" with
  | none => return none
  | some s => return if s.isEmpty then none else some (root.join (Location.parse s))

/-- The settings that a mapping says. -/
def ofEntries (root : Location) (entries : List (Yaml.Value × Yaml.Value)) :
    Except Failure Settings := do
  let part (key : String) := entriesOf (Yaml.Value.field? key entries)
  let llm ← llmOf (part "llm")
  let generation ← generationOf (part "generation")
  let store ← storeOf root (part "templates")
  return { root, llm, generation, store }

/-- The settings that a value says. -/
def ofValue (root : Location) (v : Yaml.Value) : Except Failure Settings :=
  if v.isNothing then .ok { root }
  else
    match v with
    | .map entries => ofEntries root entries
    | _ => .error (.config (.notMapping fileName))

end Scaffold.Config
