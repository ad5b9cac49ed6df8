import Scaffold.Config.Load
import Scaffold.Proofs.Sequence
import Scaffold.Proofs.Workspace.Linkless
import Scaffold.Proofs.Workspace.Written
import Scaffold.Provider.Registry
import Scaffold.Yaml.Load

/-!
# Settings of the provider, from the file to the runner

What the file of settings says of the provider (`Holds`, `Says`) is what a runner that is built for
it has (`Carries`), as long as something is said: a text that is not empty, or a number that is not
zero. Else the whole section counts as missing, zeros included (`load_carries`).
-/

namespace Scaffold.Config
open Scaffold.Workspace Scaffold.Provider

/-! ### What the file says -/

/-- The file of settings for a location holds a mapping; without a file, or when it says nothing,
the mapping is empty. -/
inductive Holds (loader : Loader) (cwd : Here) (l : Location) (top : Node) :
    List (Yaml.Value × Yaml.Value) → Prop
  | missing {file} : settingsLocation cwd l top = .ok file → statIfThere cwd file top = .ok none →
      Holds loader cwd l top []
  | nothing {file text v} : settingsLocation cwd l top = .ok file →
      readText cwd file top = .ok text → readValue loader file.name text = .ok v →
      v.isNothing = true → Holds loader cwd l top []
  | mapping {file text entries} : settingsLocation cwd l top = .ok file →
      readText cwd file top = .ok text → readValue loader file.name text = .ok (.map entries) →
      Holds loader cwd l top entries

/-- The settings say something that counts: a text that is not empty, or a number that is not
zero. -/
def Llm.Counts (llm : Llm) : Prop :=
  (∃ s, s ≠ "" ∧ (llm.model = some s ∨ llm.baseUrl = some s ∨ llm.apiKey = some s)) ∨
    ∃ n ∈ llm.numbers, n.isZero = false

/-- What a section says of each setting, whichever others are there. -/
structure Says (entries : List (Yaml.Value × Yaml.Value)) (llm : Llm) : Prop where
  model : said textOf? entries "model" = .ok llm.model
  baseUrl : said textOf? entries "base_url" = .ok llm.baseUrl
  apiKey : said textOf? entries "api_key" = .ok llm.apiKey
  temperature : said doubleOf? entries "temperature" = .ok llm.temperature
  maxTokens : ((Yaml.Value.field? "max_tokens" entries).bind wholeOf?).map .int = llm.maxTokens
  requestTimeout : said doubleOf? entries "request_timeout" = .ok llm.requestTimeout

/-- The section of the provider. -/
def providerEntries (entries : List (Yaml.Value × Yaml.Value)) : List (Yaml.Value × Yaml.Value) :=
  entriesOf (Yaml.Value.field? "llm" entries)

section

variable {entries : List (Yaml.Value × Yaml.Value)} {llm : Llm} {settings : Settings}
  {root : Location}

theorem saysText_iff {o : Option String} : Llm.saysText o = true ↔ ∃ s, s ≠ "" ∧ o = some s := by
  cases o with
  | none => simp [Llm.saysText]
  | some s => simp [Llm.saysText]

theorem saysAnything_iff : llm.saysAnything = true ↔ llm.Counts := by
  simp only [Llm.saysAnything, Llm.Counts, Bool.or_eq_true, saysText_iff, List.any_eq_true,
    Bool.not_eq_true', and_or_left, exists_or, or_assoc]

/-- A section is kept as a whole or counts as missing. -/
theorem says_of_llmOf {kept : Option Llm} (h : llmOf entries = .ok kept) :
    ∃ llm, Says entries llm ∧ kept = if llm.saysAnything then some llm else none := by
  obtain ⟨model, hmodel, h⟩ := bind_eq_ok h
  obtain ⟨baseUrl, hbaseUrl, h⟩ := bind_eq_ok h
  obtain ⟨apiKey, hapiKey, h⟩ := bind_eq_ok h
  obtain ⟨temperature, htemperature, h⟩ := bind_eq_ok h
  obtain ⟨maxTokens, hmaxTokens, h⟩ := bind_eq_ok h
  obtain ⟨requestTimeout, hrequestTimeout, h⟩ := bind_eq_ok h
  refine ⟨_, ⟨hmodel, hbaseUrl, hapiKey, htemperature, ?_, hrequestTimeout⟩,
    (Except.ok.inj h).symm⟩
  unfold said at hmaxTokens
  cases hfield : Yaml.Value.field? "max_tokens" entries <;> rw [hfield] at hmaxTokens <;>
    cases hmaxTokens <;> rfl

theorem llmOf_of_ofEntries (h : ofEntries root entries = .ok settings) :
    llmOf (providerEntries entries) = .ok settings.llm := by
  obtain ⟨llm, hllm, h⟩ := bind_eq_ok h
  obtain ⟨generation, -, h⟩ := bind_eq_ok h
  obtain ⟨store, -, h⟩ := bind_eq_ok h
  cases h
  exact hllm

/-- Loaded settings are those of a mapping. -/
theorem holds_of_load {loader : Loader} {cwd : Here} {l : Location} {top : Node}
    (h : load loader cwd l top = .ok settings) :
    ∃ entries, Holds loader cwd l top entries ∧
      llmOf (providerEntries entries) = .ok settings.llm := by
  have hempty : ∀ {root : Location}, (.ok { root } : Except Failure Settings) = .ok settings →
      llmOf (providerEntries []) = .ok settings.llm := by
    rintro root h
    cases h
    rfl
  obtain ⟨file, hfile, h⟩ := bind_eq_ok h
  obtain ⟨root, -, h⟩ := bind_eq_ok h
  obtain ⟨found, hfound, h⟩ := bind_eq_ok h
  cases found with
  | none => exact ⟨[], .missing hfile hfound, hempty h⟩
  | some node =>
    obtain ⟨text, htext, h⟩ := bind_eq_ok h
    obtain ⟨v, hv, h⟩ := bind_eq_ok h
    unfold ofValue at h
    split at h
    · next hnothing => exact ⟨[], .nothing hfile htext hv hnothing, hempty h⟩
    · split at h
      · exact ⟨_, .mapping hfile htext hv, llmOf_of_ofEntries h⟩
      · cases h

end

end Scaffold.Config

namespace Scaffold.Provider
open Scaffold.Config Scaffold.Workspace

/-! ### What the runner has -/

/-- The settings of a runner are those that are said: the numbers as they are, the texts that are
not empty, an address up to slashes at its end, and a key up to white space around it. -/
structure Carries (llm : Llm) (s : Settings) : Prop where
  model : ∀ m, llm.model = some m → m ≠ "" → s.model = m
  baseUrl : ∀ u, llm.baseUrl = some u → u ≠ "" →
    ∃ n, u.toList = s.baseUrl.toList ++ List.replicate n '/'
  apiKey : ∀ k, llm.apiKey = some k → s.apiKey = some (Text.strip k)
  temperature : ∀ n, llm.temperature = some n → s.temperature = some n
  maxTokens : ∀ n, llm.maxTokens = some n → s.maxTokens = some n
  requestTimeout : ∀ n, llm.requestTimeout = some n → s.requestTimeout = some n

section

variable {ρ : Type} {env : Environment} {llm : Llm} {transport : Transport ρ}

theorem given_some {s : String} (h : s ≠ "") : given (some s) = some s := by
  simp [given, h]

theorem exists_dropSlashes (s : String) :
    ∃ n, s.toList = (dropSlashes s).toList ++ List.replicate n '/' := by
  have hslash : ∀ c ∈ s.toList.rtakeWhile (· == '/'), c = '/' := fun c hc => by
    simpa using List.mem_rtakeWhile_imp hc
  refine ⟨(s.toList.rtakeWhile (· == '/')).length, ?_⟩
  rw [← List.eq_replicate_of_mem hslash, dropSlashes, String.toList_ofList]
  exact List.rdropWhile_append_rtakeWhile.symm

/-- A key that is there is kept. -/
theorem carries_of (h : (resolveApiKey env llm.apiKey).isSome) :
    Carries llm (Settings.of env (.ofConfig llm)) := by
  refine ⟨fun m hm hne => ?_, fun u hu hne => ?_, fun k hk => ?_, fun n hn => ?_, fun n hn => hn,
    fun n hn => ?_⟩
  · simp only [Settings.of, Options.ofConfig, hm, given_some hne, resolveModel, Option.some_or,
      Option.getD_some]
  · simp only [Settings.of, Options.ofConfig, hu, resolveBaseUrl, given_some hne, Option.some_or]
    exact exists_dropSlashes u
  · rw [hk] at h
    have hkey : (Settings.of env (.ofConfig llm)).apiKey = given (some (Text.strip k)) := by
      simp only [Settings.of, Options.ofConfig, hk, resolveApiKey]
    rw [hkey]
    refine given_some fun hblank => ?_
    rw [resolveApiKey, hblank] at h
    cases h
  · simp only [Settings.of, Options.ofConfig, hn, Option.some_or]
  · simp only [Settings.of, Options.ofConfig, hn, Option.some_or]

/-- A registry that keeps no runner for the settings has one built. -/
theorem resolve_of_none {R : Type} {build : Llm → Except Failure R} {r : Registry R} {config : Llm}
    (h : r.current? config = none) :
    (Id.run (r.resolve (fun c => (pure (build c) : Id _)) config)).1 = build config := by
  simp only [Registry.resolve, h]
  cases build config <;> rfl

theorem overWeb_eq_ok_iff {o : Options} {runner : Runner ρ} :
    Runner.overWeb transport env o = .ok runner ↔
      (resolveApiKey env o.apiKey).isSome ∧ runner = ⟨Settings.of env o, complete transport⟩ := by
  have hkey : (Settings.of env o).apiKey = resolveApiKey env o.apiKey := rfl
  simp only [Runner.overWeb, hkey]
  cases resolveApiKey env o.apiKey with
  | none => simp
  | some key => simp [eq_comm]

/-- The runner for settings, from a registry over the web. -/
def built (transport : Transport ρ) (env : Environment) (r : Registry (Runner ρ)) (config : Llm) :
    Except Failure (Runner ρ) :=
  (Id.run (r.resolve (fun c => (pure (Runner.overWeb transport env (.ofConfig c)) : Id _))
    config)).1

/-- What becomes of the settings `llm` in a runner that is newly built for `config`: they are
carried, when something in them counts, and else it is the runner for no settings. -/
structure Reaches (transport : Transport ρ) (env : Environment) (llm config : Llm) : Prop where
  key : llm.Counts → ∀ r : Registry (Runner ρ), r.current? config = none →
    ((∃ runner, built transport env r config = .ok runner) ↔ (resolveApiKey env llm.apiKey).isSome)
  carried : llm.Counts → ∀ r : Registry (Runner ρ), r.current? config = none →
    ∀ runner, built transport env r config = .ok runner → Carries llm runner.settings
  dropped : ¬ llm.Counts → ∀ r : Registry (Runner ρ), r.current? config = none →
    built transport env r config = Runner.overWeb transport env {}

/-- The settings that a file says of the provider, each for itself, are those of the runner that is
built for it, which fails only without a key. But a section with nothing in it that counts is
dropped as a whole, with the zeros that it sets. -/
theorem load_carries {loader : Loader} {cwd : Here} {l : Location} {top : Node}
    {settings : Config.Settings}
    (h : load loader cwd l top = .ok settings) (transport : Transport ρ) (env : Environment) :
    ∃ entries llm, Holds loader cwd l top entries ∧ Says (providerEntries entries) llm ∧
      Reaches transport env llm (settings.llm.getD {}) := by
  obtain ⟨entries, hholds, hllm⟩ := holds_of_load h
  obtain ⟨llm, hsays, hkept⟩ := says_of_llmOf hllm
  have hbuilt : ∀ (r : Registry (Runner ρ)) (config : Llm), r.current? config = none →
      built transport env r config = Runner.overWeb transport env (.ofConfig config) :=
    fun r config hr => resolve_of_none hr
  have hconfig : llm.Counts → settings.llm.getD {} = llm := by
    intro hcounts
    rw [hkept, if_pos (saysAnything_iff.2 hcounts), Option.getD_some]
  refine ⟨entries, llm, hholds, hsays, fun hcounts r hr => ?_,
    fun hcounts r hr runner hrunner => ?_, fun hno r hr => ?_⟩
  · rw [hbuilt r _ hr, hconfig hcounts]
    constructor
    · rintro ⟨runner, hrunner⟩
      exact (overWeb_eq_ok_iff.1 hrunner).1
    · exact fun hkey => ⟨_, overWeb_eq_ok_iff.2 ⟨hkey, rfl⟩⟩
  · rw [hbuilt r _ hr, hconfig hcounts] at hrunner
    obtain ⟨hkey, rfl⟩ := overWeb_eq_ok_iff.1 hrunner
    exact carries_of hkey
  · rw [hbuilt r _ hr, hkept, if_neg fun hsays => hno (saysAnything_iff.1 hsays)]
    rfl

end

/-- A workspace with a file of settings. -/
def settingsTree (text : String) : Node :=
  .directory [("w", .directory [(fileName, .file text.toUTF8)])]

theorem plain_settingsNames : ∀ name ∈ ["w"] ++ [fileName], IsPlain name := by
  decide +kernel

theorem linkless_settingsTree (text : String) : Linkless (settingsTree text) [] :=
  ⟨rfl, by simp, rfl, fun _ _ _ => ne_link_of_linkCount rfl⟩

theorem passable_settingsTree (text : String) : Passable (settingsTree text) ["w"] where
  directory := rfl
  short := by decide +kernel
  fits := by decide +kernel

/-- The file of settings is found. -/
theorem stat_settingsTree (text : String) :
    (∃ entries, (settingsTree text).stat (.top ["w"]) = .ok (.directory entries)) ∧
      (settingsTree text).stat (.top ["w", fileName]) = .ok (.file text.toUTF8) := by
  have hplain := plain_settingsNames
  have hfits : Fits (["w"] ++ [fileName]) := by decide +kernel
  have hfile : (settingsTree text).get? (["w"] ++ [fileName]) = some (.file text.toUTF8) := rfl
  have hlocate : (settingsTree text).locate true (.top ["w", fileName]) =
      .ok ⟨["w", fileName], some (.file text.toUTF8)⟩ :=
    locate_file true hplain (passable_settingsTree text) (by decide +kernel) hfits hfile
  refine ⟨stat_there (fun name hm => hplain name (List.mem_append_left _ hm))
    (passable_settingsTree text), ?_⟩
  simp only [Node.stat, hlocate, bind, Except.bind]
  rfl

/-- The file of settings is read. -/
theorem found_settingsTree {text : String} (h : '\r' ∉ text.toList) :
    settingsLocation (.top []) (.top ["w"]) (settingsTree text) = .ok (.top ["w", fileName]) ∧
      (settingsTree text).resolve ["w"] = .ok (.top ["w"]) ∧
      statIfThere (.top []) (.top ["w", fileName]) (settingsTree text) =
        .ok (some (.file text.toUTF8)) ∧
      readText (.top []) (.top ["w", fileName]) (settingsTree text) = .ok text := by
  have hfree := linkless_settingsTree text
  have hfile : (settingsTree text).resolve ["w", fileName] = .ok (.top ["w", fileName]) :=
    resolve_linkless hfree plain_settingsNames (by decide)
  have hroot : (settingsTree text).resolve ["w"] = .ok (.top ["w"]) :=
    resolve_linkless hfree (fun name hm => plain_settingsNames name (List.mem_append_left _ hm))
      (by decide)
  obtain ⟨⟨entries, hat⟩, hin⟩ := stat_settingsTree text
  have hjoin : ∀ names, Location.join (.top []) (.top names) = .top names := fun _ => rfl
  have hparse : Location.parse fileName = ⟨0, [fileName]⟩ := by decide +kernel
  refine ⟨?_, hroot, ?_, ?_⟩
  · rw [settingsLocation, statIfThere, if_neg (by decide), hjoin, hat, hparse]
    exact hfile
  · rw [statIfThere, if_neg (by decide), hjoin, hin]
  · rw [readText, if_neg (by decide), hjoin]
    simp only [Node.read, hin, bind, Except.bind, pure, Except.pure, textOf?_toUTF8 h]

/-- The settings of the workspace are what the text says. -/
theorem load_settingsTree {loader : Loader} {text : String} (h : '\r' ∉ text.toList) :
    load loader (.top []) (.top ["w"]) (settingsTree text) =
      readValue loader fileName text >>= ofValue (.top ["w"]) := by
  obtain ⟨hlocation, hroot, hthere, hread⟩ := found_settingsTree h
  have hparent : (Location.top ["w", fileName]).parent.names = ["w"] := rfl
  simp only [load, hlocation, hparent, hroot, hthere, hread, bind, Except.bind]
  rfl

/-- A zero next to a key counts, and is carried. -/
theorem load_carries_zero_and_key :
    let transport : Transport Unit := fun _ => pure (.unreachable "no network")
    ∃ settings entries llm, load Yaml.load (.top []) (.top ["w"])
        (settingsTree "llm:\n  max_tokens: 0\n  api_key: key\n") = .ok settings ∧
      Holds Yaml.load (.top []) (.top ["w"])
        (settingsTree "llm:\n  max_tokens: 0\n  api_key: key\n") entries ∧
      Says (providerEntries entries) llm ∧
      Reaches transport [] llm (settings.llm.getD {}) := by
  intro transport
  have hloads : (load Yaml.load (.top []) (.top ["w"])
      (settingsTree "llm:\n  max_tokens: 0\n  api_key: key\n")).toOption.isSome = true := by
    rw [load_settingsTree (by decide)]
    decide +kernel
  cases hload : load Yaml.load (.top []) (.top ["w"])
      (settingsTree "llm:\n  max_tokens: 0\n  api_key: key\n") with
  | error f =>
    rw [hload] at hloads
    cases hloads
  | ok settings =>
    obtain ⟨entries, llm, hholds, hsays, hreaches⟩ := load_carries hload transport []
    exact ⟨settings, entries, llm, rfl, hholds, hsays, hreaches⟩

/-- A zero that is the only setting is not carried. -/
theorem lone_zero_dropped :
    Says [(.text "max_tokens", .int 0)] { maxTokens := some (.int 0) } ∧
      llmOf [(.text "max_tokens", .int 0)] = .ok none ∧
      (Settings.of [("PATHGEN_LLM_API_KEY", "key")] (.ofConfig {})).maxTokens = none :=
  ⟨⟨rfl, rfl, rfl, rfl, rfl, rfl⟩, rfl, rfl⟩

end Scaffold.Provider
