import Scaffold.Proofs.Failure
import Scaffold.Proofs.Generation.Run
import Scaffold.Proofs.Json.Printed
import Scaffold.Proofs.Provider.Runner
import Scaffold.Proofs.Sequence
import Scaffold.Proofs.Text.Wide
import Scaffold.Proofs.Workspace.Written

/-!
# What runners over the web answer

A runner is to answer with a text that says something, and with model names in order, or to fail
with a failure of the provider: the result is to be `Closed`. Over the web it is, unless a setting
is `TooLong` to be sent, a completion is white space, which makes the answer empty, or a failure
`Strays`: the address has no scheme, the transport breaks in a way of its own, or a body has a
number that is too long or is nested too deeply (`overWeb_closed_iff`).
-/

namespace Scaffold.Provider

section

variable {α : Type}

/-- A failure of the provider. -/
def OfProvider (f : Failure) : Prop := ∃ fault, f = .provider fault

/-- A value with a property, or a failure of the provider. -/
def Closed (p : α → Prop) (r : Except Failure α) : Prop :=
  (∃ a, r = .ok a ∧ p a) ∨ ∃ f, r = .error f ∧ OfProvider f

/-- A text that says something, without white space around it. -/
def Spoken (reply : Reply) : Prop := ∃ t, reply = .ofWide t ∧ t ≠ [] ∧ t.strip = t

/-- Names in order, none of them empty. -/
def Listed (ids : List String) : Prop := ids.Pairwise (· ≤ ·) ∧ "" ∉ ids

/-- A result is closed when its value has the property and its failure does not stray. -/
theorem closed_iff {p : α → Prop} {r : Except Failure α} :
    Closed p r ↔ (∀ a, r = .ok a → p a) ∧ FailsOnly OfProvider r := by
  cases r with
  | ok a => simp [Closed]
  | error f => simp [Closed]

end

/-! ### What comes back -/

/-- What comes back fails with no failure of the provider. -/
inductive WebReply.Strays : WebReply → Failure → Prop
  /-- the transport breaks in a way of its own -/
  | broken {f : Failure} (hf : ¬ OfProvider f) : Strays (.broken f) f
  /-- a body with a number that is too long -/
  | number {content : ByteArray} {count : Nat} (h : OverLong content count) :
      Strays (.body content) (Json.digitsFailure count)
  /-- a body that is nested too deeply -/
  | nesting {content : ByteArray} {inArray : Bool} (h : TooDeep content inArray) :
      Strays (.body content) (Json.depthFailure inArray)

theorem content_body_bind {α : Type} (content : ByteArray) (k : ByteArray → Except Failure α) :
    (WebReply.body content).content >>= k = k content := rfl

theorem content_strays_iff {reply : WebReply} {f : Failure} :
    reply.content >>= readBody = .error f ∧ ¬ OfProvider f ↔ reply.Strays f := by
  constructor
  · rintro ⟨h, hf⟩
    cases reply with
    | body content =>
      rcases readBody_error_cases h with rfl | ⟨count, hcount, rfl⟩ | ⟨inArray, hdeep, rfl⟩
      · exact absurd ⟨_, rfl⟩ hf
      · exact .number hcount
      · exact .nesting hdeep
    | status code name content =>
      cases h
      exact absurd ⟨_, rfl⟩ hf
    | unreachable reason =>
      cases h
      exact absurd ⟨_, rfl⟩ hf
    | broken f' =>
      cases h
      exact .broken hf
  · intro h
    cases h with
    | broken hf => exact ⟨rfl, hf⟩
    | number hcount =>
      refine ⟨readBody_of_digits hcount, ?_⟩
      rintro ⟨fault, ⟨⟩⟩
    | nesting hdeep =>
      refine ⟨readBody_of_depth hdeep, ?_⟩
      rintro ⟨fault, ⟨⟩⟩

/-- An address without a scheme is no failure of the provider. -/
theorem not_ofProvider_of_check {s : String} {f : Failure} (h : Url.check s = .error f) :
    ¬ OfProvider f := by
  unfold Url.check at h
  extract_lets cs at h
  split at h
  extract_lets full at h
  split at h <;> cases h
  rintro ⟨fault, ⟨⟩⟩

section

variable {ρ : Type}

/-- The value that comes back from an address. -/
def fetched (transport : Transport ρ) (address : String) (request : String → WebRequest) (w : ρ) :
    Except Failure Json.Raw := do
  let url ← Url.check address
  (transport (request url) w).1.content >>= readBody

/-- A request to an address fails with no failure of the provider: the address has no scheme, or it
is for what comes back. -/
def Strays (transport : Transport ρ) (address : String) (request : String → WebRequest) (w : ρ)
    (f : Failure) : Prop :=
  Url.check address = .error f ∨
    ∃ url, Url.check address = .ok url ∧ (transport (request url) w).1.Strays f

variable {transport : Transport ρ} {address : String} {request : String → WebRequest} {w : ρ}
  {f : Failure}

theorem fetched_of_refused (h : Url.check address = .error f) :
    fetched transport address request w = .error f := by
  simp only [fetched, h]
  rfl

theorem fetched_of_sent {url : String} (h : Url.check address = .ok url) :
    fetched transport address request w = (transport (request url) w).1.content >>= readBody := by
  simp only [fetched, h]
  rfl

theorem fetched_strays_iff : fetched transport address request w = .error f ∧ ¬ OfProvider f ↔
    Strays transport address request w f := by
  unfold Strays
  cases h : Url.check address with
  | error f' =>
    rw [fetched_of_refused h]
    constructor
    · rintro ⟨⟨⟩, -⟩
      exact Or.inl rfl
    · rintro (⟨⟨⟩⟩ | ⟨url, ⟨⟩, -⟩)
      exact ⟨rfl, not_ofProvider_of_check h⟩
  | ok url =>
    rw [fetched_of_sent h, content_strays_iff]
    constructor
    · exact fun hstrays => Or.inr ⟨url, rfl, hstrays⟩
    · rintro (⟨⟨⟩⟩ | ⟨url', ⟨⟩, hstrays⟩)
      exact hstrays

variable {α : Type} {k : Json.Raw → Except Failure α}

/-- What is made of the value fails as the provider does, so other failures are those that
stray. -/
theorem fetched_bind_strays_iff (hk : ∀ v, FailsOnly OfProvider (k v)) :
    fetched transport address request w >>= k = .error f ∧ ¬ OfProvider f ↔
      Strays transport address request w f := by
  rw [← fetched_strays_iff]
  refine and_congr_left fun hf => ?_
  cases fetched transport address request w with
  | error f' => simp only [bind, Except.bind, Except.error.injEq]
  | ok v =>
    constructor
    · exact fun h => absurd (hk v f h) hf
    · rintro ⟨⟩

theorem closed_fetched_bind_iff (hk : ∀ v, FailsOnly OfProvider (k v)) {p : α → Prop} :
    Closed p (fetched transport address request w >>= k) ↔
      (∀ v a, fetched transport address request w = .ok v → k v = .ok a → p a) ∧
        ∀ f, ¬ Strays transport address request w f := by
  rw [closed_iff]
  refine and_congr ⟨fun h v a hv ha => ?_, fun h a ha => ?_⟩ ⟨fun h f hf => ?_, fun h f hf => ?_⟩
  · exact h a (by rw [hv]; exact ha)
  · obtain ⟨v, hv, ha⟩ := bind_eq_ok ha
    exact h v a hv ha
  · obtain ⟨he, hother⟩ := (fetched_bind_strays_iff hk).2 hf
    exact hother (h f he)
  · by_contra hother
    exact h f ((fetched_bind_strays_iff hk).1 ⟨hf, hother⟩)

end

/-! ### Completions -/

/-- What is made of a completion. -/
def spoken (v : Json.Raw) : Except Failure Reply :=
  if (completionText v).isEmpty then .error (.provider .noContent)
  else .ok (.ofWide (completionText v).strip)

/-- The text of a completion is white space. -/
def Wordless (v : Json.Raw) : Prop :=
  completionText v ≠ [] ∧ (completionText v).strip = []

theorem failsOnly_spoken (v : Json.Raw) : FailsOnly OfProvider (spoken v) := by
  unfold spoken
  split
  · exact failsOnly_error.2 ⟨_, rfl⟩
  · exact failsOnly_ok _

theorem spoken_eq_ok_iff {v : Json.Raw} {reply : Reply} : spoken v = .ok reply ↔
    completionText v ≠ [] ∧ .ofWide (completionText v).strip = reply := by
  unfold spoken
  by_cases h : completionText v = []
  · simp [h]
  · simp [h]

/-- The reply is a string just when the text is one. -/
theorem ofWide_eq_text_iff {t : Text.Wide} {s : String} :
    Reply.ofWide t = .text s ↔ t = .ofString s := by
  unfold Reply.ofWide
  constructor
  · intro h
    split at h
    · cases h
    · next hnone =>
      rw [← Reply.text.inj h, Text.Wide.ofString_shown (by simpa using hnone)]
  · rintro rfl
    simp

/-- The empty text is said just when white space is. -/
theorem spoken_eq_empty_iff {v : Json.Raw} : spoken v = .ok (.text "") ↔ Wordless v := by
  rw [spoken_eq_ok_iff, ofWide_eq_text_iff]
  exact Iff.rfl

theorem bind_spoken_eq_empty_iff {back : Except Failure Json.Raw} :
    back >>= spoken = .ok (.text "") ↔ ∃ v, back = .ok v ∧ Wordless v := by
  constructor
  · intro h
    obtain ⟨v, hv, hempty⟩ := bind_eq_ok h
    exact ⟨v, hv, spoken_eq_empty_iff.1 hempty⟩
  · rintro ⟨v, rfl, hwordless⟩
    exact spoken_eq_empty_iff.2 hwordless

/-- What is said says something, unless it is the empty text. -/
theorem spoken_of_ok {v : Json.Raw} {reply : Reply} (h : spoken v = .ok reply)
    (hempty : reply ≠ .text "") : Spoken reply := by
  obtain ⟨-, rfl⟩ := spoken_eq_ok_iff.1 h
  refine ⟨_, rfl, fun he => hempty ?_, Text.Wide.strip_strip _⟩
  rw [he]
  rfl

theorem not_spoken_empty : ¬ Spoken (.text "") := by
  rintro ⟨t, ht, hne, -⟩
  exact hne (ofWide_eq_text_iff.1 ht.symm)

/-! ### Listings -/

theorem failsOnly_modelIds (v : Json) : FailsOnly OfProvider (modelIds v) := by
  unfold modelIds
  split
  · split
    · exact failsOnly_ok _
    · exact failsOnly_error.2 ⟨_, rfl⟩
  · exact failsOnly_error.2 ⟨_, rfl⟩

theorem listed_modelIds {v : Json} {ids : List String} (h : modelIds v = .ok ids) : Listed ids := by
  unfold modelIds at h
  split at h
  · split at h
    · cases h
      exact ⟨pairwise_mergeSort_on id _, by simp [List.mem_mergeSort]⟩
    · cases h
  · cases h

/-! ### Runners -/

section

variable {ρ : Type} {transport : Transport ρ} {w : ρ}

/-- Where a list of models is asked for. -/
def Runner.listing (runner : Runner ρ) : String := runner.settings.baseUrl ++ "/models"

/-- How it is asked for. -/
def Settings.ask (settings : Settings) (url : String) : WebRequest :=
  ⟨url, "GET", headers settings.apiKey, none, timeoutOf settings.requestTimeout⟩

theorem complete_fst {r : Request} (h : ¬ r.settings.TooLong) :
    (complete transport r w).1 = fetched transport r.address r.post w >>= spoken := by
  cases hurl : Url.check r.address with
  | error f =>
    rw [complete_of_refused h hurl, fetched_of_refused hurl]
    rfl
  | ok url =>
    rw [complete_of_sent h hurl, fetched_of_sent hurl]
    cases (transport (r.post url) w).1.content <;> rfl

theorem listModels_fst (runner : Runner ρ) :
    (Runner.listModels transport runner w).1 =
      fetched transport runner.listing runner.settings.ask w >>= fun v => modelIds v.toJson := by
  cases h : Url.check runner.listing with
  | error f =>
    rw [fetched_of_refused h]
    rw [Runner.listing] at h
    simp only [Runner.listModels, bind, StateT.bind, exchange_of_refused h]
    rfl
  | ok url =>
    rw [fetched_of_sent h, Settings.ask]
    rw [Runner.listing] at h
    simp only [Runner.listModels, bind, StateT.bind, exchange_of_sent h]
    rcases transport ⟨url, "GET", headers runner.settings.apiKey, none,
      timeoutOf runner.settings.requestTimeout⟩ w with ⟨reply, w'⟩
    dsimp only
    cases reply.content <;> rfl

variable [Log.Journal ρ]

/-- The state in which a request is sent: it is noted before. -/
def Request.noted (r : Request) (w : ρ) : ρ :=
  let mode := if r.jsonMode then "JSON" else "text"
  Log.Journal.add ⟨.debug, "llm", s!"Sending {mode} request to {r.settings.model}"⟩ w

variable (transport w) in
theorem run_fst (settings : Settings) (prompt : String) (system : Option String) (jsonMode : Bool) :
    let r : Request := ⟨prompt, system, jsonMode, settings⟩
    (Runner.run ⟨settings, complete transport⟩ prompt system jsonMode w).1 =
      (complete transport r (r.noted w)).1 := by
  intro r
  rw [Request.noted]
  simp only [Runner.run, Log.note, bind, StateT.bind, modify, modifyGet, MonadStateOf.modifyGet,
    StateT.modifyGet, pure]
  rfl

/-- A runner over the web whose settings can be sent answers with the empty text just when a
completion is white space, and fails with no failure of the provider just when that failure strays.
Its result is closed in all other cases. Settings that cannot be sent are no failure of the
provider either. A list of models is closed unless a failure strays. -/
theorem overWeb_closed_iff (transport : Transport ρ) (settings : Settings) (w : ρ) :
    let runner : Runner ρ := ⟨settings, complete transport⟩
    (∀ (prompt : String) (system : Option String) (jsonMode : Bool),
      let r : Request := ⟨prompt, system, jsonMode, settings⟩
      let back := fetched transport r.address r.post (r.noted w)
      let strays := Strays transport r.address r.post (r.noted w)
      let answer := (runner.run prompt system jsonMode w).1
      (answer = .ok (.text "") ↔ ¬ settings.TooLong ∧ ∃ v, back = .ok v ∧ Wordless v) ∧
      (∀ f, answer = .error f ∧ ¬ OfProvider f ↔
        settings.TooLong ∧ f = .tooManyDigits ∨ ¬ settings.TooLong ∧ strays f) ∧
      (Closed Spoken answer ↔
        ¬ settings.TooLong ∧ (∀ v, back = .ok v → ¬ Wordless v) ∧ ∀ f, ¬ strays f)) ∧
    let strays := Strays transport runner.listing settings.ask w
    let ids := (Runner.listModels transport runner w).1
    (∀ f, ids = .error f ∧ ¬ OfProvider f ↔ strays f) ∧ (Closed Listed ids ↔ ∀ f, ¬ strays f) := by
  refine ⟨fun prompt system jsonMode => ?_, ?_⟩
  · intro r back strays answer
    have hrun : answer = (complete transport r (r.noted w)).1 :=
      run_fst transport w settings prompt system jsonMode
    by_cases hlong : settings.TooLong
    · have hanswer : answer = .error .tooManyDigits := by
        rw [hrun, complete_of_tooLong hlong]
      have hother : ¬ OfProvider .tooManyDigits := by
        rintro ⟨fault, ⟨⟩⟩
      rw [hanswer, closed_iff]
      refine ⟨by simp [hlong], fun f => ?_, by simp [hlong, hother]⟩
      constructor
      · rintro ⟨⟨⟩, -⟩
        exact Or.inl ⟨hlong, rfl⟩
      · rintro (⟨-, rfl⟩ | ⟨hsent, -⟩)
        · exact ⟨rfl, hother⟩
        · exact absurd hlong hsent
    · have hanswer : answer = back >>= spoken := by
        rw [hrun, complete_fst hlong]
      simp only [hlong, not_false_eq_true, true_and, false_and, false_or, hanswer]
      refine ⟨bind_spoken_eq_empty_iff, fun f => fetched_bind_strays_iff failsOnly_spoken, ?_⟩
      rw [closed_fetched_bind_iff failsOnly_spoken]
      refine and_congr_left fun _ => ⟨fun hsaid v hv hwordless => ?_, fun hsaid v reply hv h => ?_⟩
      · exact not_spoken_empty (hsaid v _ hv (spoken_eq_empty_iff.2 hwordless))
      · refine spoken_of_ok h ?_
        rintro rfl
        exact hsaid v hv (spoken_eq_empty_iff.1 h)
  · intro strays ids
    have hids : ids = fetched transport _ _ w >>= fun v => modelIds v.toJson := listModels_fst _
    have hfails : ∀ v : Json.Raw, FailsOnly OfProvider (modelIds v.toJson) :=
      fun v => failsOnly_modelIds v.toJson
    rw [hids]
    refine ⟨fun f => fetched_bind_strays_iff hfails, ?_⟩
    rw [closed_fetched_bind_iff hfails]
    exact and_iff_right fun v ids _ h => listed_modelIds h

end

/-- A completion that says a blank. -/
def blankCompletion : Json :=
  .object [("choices", .array [.object [("text", .text " ")]])]

theorem readBody_blankCompletion :
    readBody (Json.print .wire blankCompletion).toUTF8 = .ok blankCompletion.raw := by
  have hplain : Json.Plain Json.depthLimit blankCompletion := by
    refine .object (by simp) fun field hfield => ?_
    rw [List.mem_singleton.1 hfield]
    refine .array fun v hv => ?_
    rw [List.mem_singleton.1 hv]
    refine .object (by simp) fun field hfield => ?_
    rw [List.mem_singleton.1 hfield]
    exact .text _
  simp only [readBody, Workspace.fromUTF8?_toUTF8, Json.read_print hplain]
  rfl

/-- A runner whose server always says the same. -/
def sayingRunner (reply : WebReply) : Runner (List Log.Record) :=
  ⟨.of [("OPENAI_API_KEY", "key")] {}, complete fun _ => pure reply⟩

theorem sayingRunner_run (reply : WebReply) :
    ((sayingRunner reply).run "hello" none false []).1 =
      (reply.content >>= readBody) >>= spoken := by
  have hsent : ¬ (Settings.of [("OPENAI_API_KEY", "key")] {}).TooLong := by
    rintro ⟨n, hn | hn, -⟩ <;> simp [Settings.of] at hn
  have hcheck : Url.check
      (Request.address ⟨"hello", none, false, .of [("OPENAI_API_KEY", "key")] {}⟩) =
        .ok "https://api.openai.com/v1/chat/completions" := rfl
  rw [sayingRunner, run_fst, complete_fst hsent, fetched_of_sent hcheck]
  rfl

/-- A blank makes the answer empty, and a server that is slow is no failure of the provider. -/
theorem blank_and_slow_not_closed :
    ¬ Closed Spoken ((sayingRunner (.body (Json.print .wire blankCompletion).toUTF8)).run
      "hello" none false []).1 ∧
    ¬ Closed Spoken ((sayingRunner (.broken (.timeout "timed out"))).run
      "hello" none false []).1 := by
  rw [sayingRunner_run, sayingRunner_run, content_body_bind, readBody_blankCompletion, closed_iff,
    closed_iff]
  constructor
  · rintro ⟨hspoken, -⟩
    have hwordless : Wordless blankCompletion.raw := ⟨by decide, rfl⟩
    exact not_spoken_empty (hspoken (.text "") (spoken_eq_empty_iff.2 hwordless))
  · rintro ⟨-, hfails⟩
    have hfailed : OfProvider (.timeout "timed out") := hfails _ rfl
    obtain ⟨fault, hfault⟩ := hfailed
    cases hfault

end Scaffold.Provider
