import Mathlib.Tactic
import Scaffold.Provider.Runner

/-!
# Requests over the web

A request for a completion goes to one address (`Request.address`) as one web request
(`Request.post`). It is not sent at all when a number of the settings is `TooLong`
(`complete_of_tooLong`). A body that comes back is read, unless it is no JSON, is `OverLong` or is
`TooDeep` (`readBody_error_cases`).
-/

namespace Scaffold.Provider

/-! ### What is sent -/

/-- Where a request for a completion goes. -/
def Request.address (r : Request) : String := r.settings.baseUrl ++ "/chat/completions"

/-- What is sent there. -/
def Request.post (r : Request) (url : String) : WebRequest :=
  ⟨url, "POST", headers r.settings.apiKey, some (Json.print .wire (payload r)),
    timeoutOf r.settings.requestTimeout⟩

/-- A number of the settings is too long to be sent. -/
def Settings.TooLong (s : Settings) : Prop :=
  ∃ n, (s.temperature = some (.int n) ∨ s.maxTokens = some (.int n)) ∧
    Decimal.tooLongToWrite n = true

theorem anyLongField_append (front back : List (String × Json)) :
    Json.anyLongField (front ++ back) = (Json.anyLongField front || Json.anyLongField back) := by
  induction front with
  | nil => rfl
  | cons field front ih =>
    rw [List.cons_append, Json.anyLongField, Json.anyLongField, ih, Bool.or_assoc]

theorem hasLong_messages (r : Request) : (messages r).hasLong = false := by
  unfold messages
  split <;> rfl

theorem anyLongField_numberField {name : String} {n : Option Number} :
    Json.anyLongField (numberField name n) = true ↔
      ∃ k, n = some (.int k) ∧ Decimal.tooLongToWrite k = true := by
  rcases n with _ | n
  · simp [numberField, Json.anyLongField]
  · cases n <;> simp [numberField, Json.anyLongField, Number.toJson, Json.hasLong]

/-- A request is not written just when a number of its settings is too long. -/
theorem hasLong_payload_iff {r : Request} : (payload r).hasLong = true ↔ r.settings.TooLong := by
  have hformat : Json.anyLongField (if r.jsonMode then
      [("response_format", .object [("type", .text "json_object")])] else []) = false := by
    split <;> rfl
  have hfront : Json.anyLongField [("model", .text r.settings.model), ("messages", messages r)] =
      false := by
    simp [Json.anyLongField, Json.hasLong, hasLong_messages]
  simp only [payload, Json.hasLong, anyLongField_append, hfront, hformat, Bool.false_or,
    Bool.or_eq_true, anyLongField_numberField, Settings.TooLong]
  constructor
  · rintro (⟨n, hn, hlong⟩ | ⟨n, hn, hlong⟩)
    · exact ⟨n, Or.inl hn, hlong⟩
    · exact ⟨n, Or.inr hn, hlong⟩
  · rintro ⟨n, hn | hn, hlong⟩
    · exact Or.inl ⟨n, hn, hlong⟩
    · exact Or.inr ⟨n, hn, hlong⟩

section

variable {ρ : Type} {transport : Transport ρ} {r : Request} {w : ρ}

/-- Nothing is sent to an address that is refused. -/
theorem exchange_of_refused {url method : String} {settings : Settings} {body : Option String}
    {f : Failure} (h : Url.check url = .error f) :
    exchange transport url method settings body w = (.error f, w) := by
  -- the definition's own equation takes long to derive
  delta exchange
  rw [h]
  rfl

theorem exchange_of_sent {url sent method : String} {settings : Settings} {body : Option String}
    (h : Url.check url = .ok sent) :
    exchange transport url method settings body w =
      let (reply, w') := transport
        ⟨sent, method, headers settings.apiKey, body, timeoutOf settings.requestTimeout⟩ w
      (reply.content, w') := by
  delta exchange
  rw [h]
  rfl

/-- A request that is not written is not sent. -/
theorem complete_of_tooLong (h : r.settings.TooLong) :
    complete transport r w = (.error .tooManyDigits, w) := by
  have hwrite : Json.write .wire (payload r) = .error .tooManyDigits :=
    if_pos (hasLong_payload_iff.2 h)
  simp only [complete, hwrite]
  rfl

theorem write_payload (h : ¬ r.settings.TooLong) :
    Json.write .wire (payload r) = .ok (Json.print .wire (payload r)) :=
  if_neg fun hlong => h (hasLong_payload_iff.1 hlong)

theorem complete_of_refused (hwritten : ¬ r.settings.TooLong) {f : Failure}
    (h : Url.check r.address = .error f) : complete transport r w = (.error f, w) := by
  rw [Request.address] at h
  simp only [complete, write_payload hwritten, bind, StateT.bind, exchange_of_refused h]
  rfl

theorem complete_of_sent (hwritten : ¬ r.settings.TooLong) {url : String}
    (h : Url.check r.address = .ok url) :
    (complete transport r w).1 = (transport (r.post url) w).1.content >>= completion := by
  rw [Request.address] at h
  simp only [complete, write_payload hwritten, bind, StateT.bind, exchange_of_sent h]
  rcases hreply : transport (r.post url) w with ⟨reply, w'⟩
  rw [Request.post] at hreply
  simp only [hreply]
  cases reply.content <;> rfl

end

/-! ### What is read -/

/-- The bytes are a text that is not read as JSON for a whole number of so many digits. -/
def OverLong (content : ByteArray) (count : Nat) : Prop :=
  ∃ s, String.fromUTF8? content = some s ∧ Json.read s = .error (.digits count)

/-- The bytes are a text that is not read as JSON for an array or an object that is nested too
deeply. -/
def TooDeep (content : ByteArray) (inArray : Bool) : Prop :=
  ∃ s, String.fromUTF8? content = some s ∧ Json.read s = .error (.depth inArray)

section

variable {f : Failure} {content : ByteArray}

theorem readBody_of_fault {s : String} {fault : Json.Fault}
    (hs : String.fromUTF8? content = some s) (hp : Json.read s = .error fault) :
    readBody content = .error (fault.failure (.provider .invalidJson)) := by
  simp only [readBody, hs, hp, Except.mapError]

theorem readBody_of_digits {count : Nat} (h : OverLong content count) :
    readBody content = .error (Json.digitsFailure count) := by
  obtain ⟨s, hs, hp⟩ := h
  exact readBody_of_fault hs hp

theorem readBody_of_depth {inArray : Bool} (h : TooDeep content inArray) :
    readBody content = .error (Json.depthFailure inArray) := by
  obtain ⟨s, hs, hp⟩ := h
  exact readBody_of_fault hs hp

/-- What becomes of a body that is not read. -/
theorem readBody_error_cases (h : readBody content = .error f) :
    f = .provider .invalidJson ∨
      (∃ count, OverLong content count ∧ f = Json.digitsFailure count) ∨
      ∃ inArray, TooDeep content inArray ∧ f = Json.depthFailure inArray := by
  unfold readBody at h
  cases hs : String.fromUTF8? content with
  | none =>
    rw [hs] at h
    cases h
    exact Or.inl rfl
  | some s =>
    simp only [hs] at h
    cases hp : Json.read s with
    | ok v =>
      rw [hp] at h
      cases h
    | error fault =>
      rw [hp] at h
      cases h
      cases fault with
      | malformed left => exact Or.inl rfl
      | digits count => exact Or.inr (Or.inl ⟨count, ⟨s, hs, hp⟩, rfl⟩)
      | depth inArray => exact Or.inr (Or.inr ⟨inArray, ⟨s, hs, hp⟩, rfl⟩)

end

end Scaffold.Provider
