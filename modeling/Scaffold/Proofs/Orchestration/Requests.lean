import Mathlib.Tactic
import Scaffold.Orchestration.PromptRun
import Scaffold.Proofs.Generation.Recorded
import Scaffold.Proofs.Orchestration.Steps

/-!
# Requests of a run

A request is for a plan, for an AI input or for the content of a file (`purposeOf`). A bench whose
runner writes its requests down is watched (`Watch`), and any runner can be made to do so
(`Watch.recorded`). Here is which requests each stage makes: `Asks made p act` says that an action
only adds requests with purposes that satisfy `p`.
-/

namespace Scaffold.Orchestration
open Scaffold.Workspace Scaffold.Provider Scaffold.Generation

/-! ### Purposes -/

/-- What a request is for. -/
inductive Purpose
  | plan
  | input
  | content
deriving Repr, DecidableEq

/-- What a request is for: plans are asked for in JSON, AI inputs under a system text of their
own. -/
def purposeOf (r : Request) : Purpose :=
  if r.jsonMode then .plan else if r.system = some aiSystem then .input else .content

theorem exists_toList_lines (l : String) (ls : List String) :
    ∃ rest, (Plan.lines (l :: ls)).toList = l.toList ++ rest := by
  cases ls with
  | nil => exact ⟨[], by simp [Plan.lines]⟩
  | cons l' ls =>
    refine ⟨'\n' :: (Plan.lines (l' :: ls)).toList, ?_⟩
    simp [Plan.lines, String.toList_intercalate, List.intercalate]

/-- The texts of a request for content do not begin as those of an AI input do. -/
theorem contentSystem_ne (extension : String) : Plan.contentSystem extension ≠ aiSystem := by
  intro h
  obtain ⟨rest, hrest⟩ := exists_toList_lines _ _
  have hstart := congrArg (List.take 5) ((congrArg String.toList h).symm.trans hrest)
  rw [List.take_append_of_le_length (by decide +kernel)] at hstart
  exact absurd hstart (by decide +kernel)

/-! ### Actions that make requests -/

section

variable {σ α β : Type} {made : σ → List Request} {p : Purpose → Prop}

/-- Requests with such purposes are all that was made since. -/
def Adds (made : σ → List Request) (p : Purpose → Prop) (s s' : σ) : Prop :=
  ∃ added, made s' = made s ++ added ∧ ∀ r ∈ added, p (purposeOf r)

theorem Adds.of_eq {s s' : σ} (h : made s' = made s) : Adds made p s s' :=
  ⟨[], by simpa using h, by simp⟩

theorem Adds.trans {s s' s'' : σ} (h : Adds made p s s') (h' : Adds made p s' s'') :
    Adds made p s s'' := by
  obtain ⟨front, hfront, hp⟩ := h
  obtain ⟨back, hback, hp'⟩ := h'
  refine ⟨front ++ back, by rw [hback, hfront, List.append_assoc], fun r hr => ?_⟩
  exact (List.mem_append.1 hr).elim (hp r) (hp' r)

theorem Adds.mono {q : Purpose → Prop} {s s' : σ} (h : Adds made p s s')
    (hpq : ∀ purpose, p purpose → q purpose) : Adds made q s s' :=
  h.imp fun _ h => ⟨h.1, fun r hr => hpq _ (h.2 r hr)⟩

/-- An action makes no requests but ones with such purposes. -/
def Asks (made : σ → List Request) (p : Purpose → Prop) (act : StateM σ α) : Prop :=
  ∀ s, Adds made p s (act s).2

theorem asks_pure (a : α) : Asks made p (pure a : StateM σ α) := fun _ => .of_eq rfl

theorem Asks.bind {act : StateM σ α} {k : α → StateM σ β} (h : Asks made p act)
    (hk : ∀ a, Asks made p (k a)) : Asks made p (act >>= k) :=
  fun s => (h s).trans (hk (act s).1 (act s).2)

variable [Log.Journal σ] (hnotes : ∀ record s, made (Log.Journal.add record s) = made s)

include hnotes

theorem asks_note (level : Log.Level) (logger message : String) :
    Asks made p (Log.note level logger message) :=
  fun s => .of_eq (hnotes _ s)

theorem asks_answerAi {ask : Template.Ask σ} {prompt : String} (hask : Asks made p (ask prompt))
    (default : String) : Asks made p (Template.answerAi ask prompt default) := by
  refine hask.bind fun reply => ?_
  cases reply with
  | ok reply => exact asks_pure _
  | error f => exact (asks_note hnotes _ _ _).bind fun _ => asks_pure _

/-- Filling a template asks what its AI inputs ask. -/
theorem asks_collectFrom {picks : Nat → Template.Selection} {ask : Template.Ask σ}
    (hask : ∀ question, Asks made p (ask question)) (i : Nat) (tokens : List Template.Token) :
    Asks made p (Template.collectFrom picks (some ask) i tokens) := by
  have hone : ∀ i token, Asks made p (Template.collectOne picks (some ask) i token) := by
    intro i token
    unfold Template.collectOne
    extract_lets picked
    split
    · exact asks_pure _
    · cases token.placeholder.prompt? with
      | none => exact asks_pure _
      | some prompt => exact asks_answerAi hnotes (hask prompt) _
  induction tokens generalizing i with
  | nil => exact asks_pure []
  | cons token tokens ih =>
    exact (hone i token).bind fun _ => (ih (i + 1)).bind fun _ => asks_pure _

/-- Reading a plan asks nothing. -/
theorem asks_planOf (v : Json) : Asks made p (planOf v : StateM σ _) := by
  have hall : ∀ fs : List Failure, Asks made p (fs.forM fun f =>
      (Log.note .debug "planning" s!"Dropping plan candidate: {f.message}" : StateM σ Unit)) := by
    intro fs
    induction fs with
    | nil => exact asks_pure ()
    | cons f fs ih => exact (asks_note hnotes _ _ _).bind fun _ => ih
  exact (hall _).bind fun _ => asks_pure _

end

/-! ### Generation -/

section

variable {τ ρ : Type} [Log.Journal ρ] {made : ρ → List Request} {p : Purpose → Prop}
  (hnotes : ∀ record s, made (Log.Journal.add record s) = made s) {fs : FileSystem τ}
  {provider : ContentProvider ρ} {prompt : String} {targets : List String} {overwrite : Bool}

include hnotes

theorem asks_recordFailure (path : String) (f : Failure) :
    Asks (fun w : World τ ρ => made w.rest) p (recordFailure path f) := by
  unfold recordFailure
  split
  · exact Asks.bind (fun w => .of_eq (hnotes _ w.rest)) fun _ => asks_pure _
  · exact asks_pure _

variable (hprovider : ∀ prompt all path, Asks made p (provider prompt all path))

include hprovider

theorem asks_requestContent (path : String) :
    Asks made p (requestContent provider prompt targets path) := by
  refine (hprovider prompt targets path).bind fun reply => ?_
  cases reply with
  | ok reply => exact asks_pure _
  | error f => exact (asks_note hnotes _ _ _).bind fun _ => asks_pure _

theorem asks_generateOne (path : String) : Asks (fun w : World τ ρ => made w.rest) p
    (generateOne fs provider prompt targets overwrite path) := by
  refine Asks.bind (fun w => .of_eq rfl) fun found => ?_
  cases found with
  | error f => exact asks_recordFailure hnotes path f
  | ok existed =>
    dsimp only
    split
    · exact Asks.bind (fun w => .of_eq (hnotes _ w.rest)) fun _ => asks_pure _
    · refine Asks.bind (fun w => asks_requestContent hnotes hprovider path w.rest) fun content => ?_
      cases content with
      | error f => exact asks_pure _
      | ok content =>
        refine Asks.bind (fun w => .of_eq rfl) fun written => ?_
        cases written with
        | ok => exact asks_pure _
        | error f => exact asks_recordFailure hnotes path f

/-- A generation run asks for the content of files. -/
theorem asks_generateFrom {progress : Option (Progress ρ)}
    (hprogress : ∀ hear ∈ progress, ∀ done total message, Asks made p (hear done total message))
    (done : Nat) (paths : List String) : Asks (fun w : World τ ρ => made w.rest) p
      (generateFrom fs provider progress prompt targets overwrite done paths) := by
  induction paths generalizing done with
  | nil => exact asks_pure _
  | cons path paths ih =>
    refine (asks_generateOne hnotes hprovider path).bind fun fate => ?_
    cases fate with
    | error f => exact asks_pure _
    | ok fate =>
      cases progress with
      | none =>
        refine (ih (done + 1)).bind fun fates => ?_
        cases fates <;> exact asks_pure _
      | some hear =>
        refine Asks.bind (fun w => hprogress hear rfl _ _ _ w.rest) fun _ =>
          (ih (done + 1)).bind fun fates => ?_
        cases fates <;> exact asks_pure _

theorem asks_generate {progress : Option (Progress ρ)}
    (hprogress : ∀ hear ∈ progress, ∀ done total message, Asks made p (hear done total message)) :
    Asks (fun w : World τ ρ => made w.rest) p
      (generate fs provider progress prompt targets overwrite) := by
  refine (asks_generateFrom hnotes hprovider hprogress 0 targets).bind fun fates => ?_
  cases fates with
  | error f => exact asks_pure _
  | ok fates => exact Asks.bind (fun w => .of_eq (hnotes _ w.rest)) fun _ => asks_pure _

end

/-! ### Benches that are watched -/

section

variable {ρ : Type} [Log.Journal ρ]

/-- A bench over a tree, with one runner for all runs; the state on which it acts shows the requests
that it was sent. -/
structure Watch (b : Bench ρ) where
  runner : Runner ρ
  given : b.runner = some runner
  tree : b.fileSystem = .local
  made : ρ → List Request
  sends : ∀ r s, made (runner.send r s).2 = made s ++ [r]
  notes : ∀ record s, made (Log.Journal.add record s) = made s
  hears : ∀ hear ∈ b.progress, ∀ done total message s, made (hear done total message s).2 = made s

/-- A runner that writes its requests down. -/
def recordedRunner (runner : Runner ρ) : Runner (Recorded ρ Request) :=
  ⟨runner.settings, fun r => recording (fun _ => r) (runner.send r)⟩

/-- A bench over a tree, with a runner that writes its requests down. -/
def recordedBench (here : Location) (loader : Config.Loader) (runner : Runner ρ)
    (progress : Option (Progress ρ)) : Bench (Recorded ρ Request) where
  here
  loader
  fileSystem := .local
  runner := some (recordedRunner runner)
  build _ := .error (.provider .noKey)
  progress := progress.map fun hear done total message s =>
    ((), { s with state := (hear done total message s.state).2 })

/-- Whatever a runner does, its requests can be watched. -/
def Watch.recorded (here : Location) (loader : Config.Loader) (runner : Runner ρ)
    (progress : Option (Progress ρ)) : Watch (recordedBench here loader runner progress) where
  runner := recordedRunner runner
  given := rfl
  tree := rfl
  made := Recorded.calls
  sends _ _ := rfl
  notes _ _ := rfl
  hears hear hmem done total message s := by
    obtain ⟨plain, -, rfl⟩ := Option.mem_map.1 hmem
    rfl

namespace Watch

variable {b : Bench ρ} (W : Watch b) {p : Purpose → Prop}

/-- The requests that the desk shows. -/
def onDesk (d : RunnerDesk ρ) : List Request := W.made d.rest

/-- The requests that a run shows. -/
def onFloor (w : Floor ρ) : List Request := W.made w.rest.rest

theorem asks_onRest {α : Type} {act : StateM ρ α} (h : Asks W.made p act) :
    Asks W.onDesk p (Desk.onRest act) :=
  fun d => h d.rest

theorem asks_run {prompt : String} {system : Option String} {jsonMode : Bool}
    (h : p (purposeOf ⟨prompt, system, jsonMode, W.runner.settings⟩)) :
    Asks W.made p (W.runner.run prompt system jsonMode) := by
  refine (asks_note W.notes _ _ _).bind fun _ s => ⟨_, W.sends _ s, ?_⟩
  rintro r hr
  rw [List.mem_singleton.1 hr]
  exact h

variable (settings : Config.Settings)

theorem findRunner_eq : b.findRunner settings = pure (.ok W.runner) := by
  simp only [Bench.findRunner, W.given]

theorem asks_ask {prompt system : String} {jsonMode : Bool}
    (h : p (purposeOf ⟨prompt, some system, jsonMode, W.runner.settings⟩)) :
    Asks W.onDesk p (b.ask settings prompt system jsonMode) := by
  unfold Bench.ask
  rw [W.findRunner_eq, pure_bind]
  exact W.asks_onRest (W.asks_run h)

/-- An AI input is asked for as such. -/
theorem asks_input (question : String) :
    Asks W.onDesk (· = .input) (b.ask settings question aiSystem false) :=
  W.asks_ask settings (by simp [purposeOf])

/-- The content of a file is asked for as such. -/
theorem asks_askRunner (summary : Summary) (prompt : String) (all : List String) (path : String) :
    Asks W.made (· = .content) (askRunner W.runner summary prompt all path) := by
  refine (W.asks_run ?_).bind fun reply => ?_
  · simp [purposeOf, Plan.contentPrompts, contentSystem_ne]
  · cases reply <;> exact asks_pure _

end Watch

end

end Scaffold.Orchestration
