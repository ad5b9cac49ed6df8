import Scaffold.Orchestration.Planning
import Scaffold.Proofs.Generation.Run
import Scaffold.Proofs.Orchestration.Steps
import Scaffold.Proofs.Provider.Runner
import Scaffold.Yaml.Load

/-!
# What becomes of a request for a plan

A request for a plan depends on the answer of the runner alone (`planned`): a value that is read
from a reply becomes the plan, and the fallback plan stands in when there is none, unless the runner
fails in a way that is not masked (`requestPlan_ends`).
-/

namespace Scaffold.Orchestration
open Scaffold.Workspace Scaffold.Provider

/-! ### Values of replies -/

/-- A value is read from a reply. -/
def Obtained (answer : Except Failure Reply) (v : Json) : Prop :=
  ∃ reply, answer = .ok reply ∧ Reply.extractJson reply.display = .ok v

/-- There is no reply, or no value is read from it. -/
def Missed (answer : Except Failure Reply) (f : Failure) : Prop :=
  answer = .error f ∨ ∃ reply, answer = .ok reply ∧ Reply.extractJson reply.display = .error f

section

variable {answer : Except Failure Reply} {v : Json} {f : Failure}

theorem planValue_eq_ok_iff : planValue answer = .ok v ↔ Obtained answer v := by
  cases answer with
  | error f => simp [planValue, Obtained, bind, Except.bind]
  | ok reply => simp [planValue, Obtained, bind, Except.bind]

theorem planValue_eq_error_iff : planValue answer = .error f ↔ Missed answer f := by
  cases answer with
  | error f => simp [planValue, Missed, bind, Except.bind]
  | ok reply => simp [planValue, Missed, bind, Except.bind]

theorem isRuntime_of_extractJson {s : String} (h : Reply.extractJson s = .error f) :
    f.isRuntime = true := by
  unfold Reply.extractJson at h
  split at h <;> cases h
  rfl

end

/-! ### The request -/

/-- The plan that stands in for one that could not be had. -/
def standIn (kinds : List Plan.Kind) (f : Failure) : PlanOutcome where
  items := Plan.restrict kinds (Plan.build Fallback.plan)
  fallback := true
  reason := some f.message

/-- What becomes of a request for a plan with this answer. -/
def planned (kinds : List Plan.Kind) (answer : Except Failure Reply) : Except Failure PlanOutcome :=
  match planValue answer with
  | .ok v => .ok { items := Plan.restrict kinds (Plan.build v) }
  | .error f => if f.isRuntime then .ok (standIn kinds f) else .error f

section

variable {ρ : Type} [Log.Journal ρ]

/-- Dropped candidates are only reported. -/
theorem gives_planOf (v : Json) : Gives (ExceptT.lift (planOf v) : Task ρ _) (Plan.build v) := by
  have hnotes : ∀ (fs : List Failure) (w : Floor ρ), ∃ r,
      fs.forM (fun f => Log.note (σ := Floor ρ) .debug "planning"
        s!"Dropping plan candidate: {f.message}") w = ((), ⟨w.files, r⟩) := by
    intro fs
    induction fs with
    | nil => exact fun w => ⟨w.rest, rfl⟩
    | cons f fs ih => exact fun w => ih _
  intro w
  obtain ⟨r, hr⟩ := hnotes (Plan.dropped v) w
  refine ⟨r, ?_⟩
  simp only [planOf, ExceptT.lift, ExceptT.mk, bind, StateT.bind, Functor.map, StateT.map]
  rw [hr]
  rfl

theorem gives_noteFailedPlan (f : Failure) : Gives (noteFailedPlan f : Task ρ Unit) () := by
  intro w
  have henabled : (ExceptT.lift (Log.isEnabled .debug) : Task ρ Bool) w =
      (.ok (decide (Log.Journal.threshold w ≤ Log.Level.debug.rank)), w) := rfl
  unfold noteFailedPlan
  rw [bind_of_ok henabled]
  exact gives_report _ _ w

/-- What the runner answers to a request for a plan. -/
def Bench.planAnswer (b : Bench ρ) (settings : Config.Settings) (instructions : String)
    (summary : Summary) (kinds : List Plan.Kind) (w : Floor ρ) : Except Failure Reply :=
  let prompts := Plan.planPrompts instructions summary kinds
  (b.ask settings prompts.user prompts.system true w.rest).1

variable (b : Bench ρ) (settings : Config.Settings) (instructions : String) (summary : Summary)
  (kinds : List Plan.Kind) (w : Floor ρ)

/-- The files are left alone, and the answer decides. -/
theorem requestPlan_apply : ∃ r, b.requestPlan settings instructions summary kinds w =
    (planned kinds (b.planAnswer settings instructions summary kinds w), ⟨w.files, r⟩) := by
  have hask := onDesk_apply (b.ask settings (Plan.planPrompts instructions summary kinds).user
    (Plan.planPrompts instructions summary kinds).system true) w
  unfold Bench.requestPlan planned
  rw [bind_of_ok hask, ← Bench.planAnswer]
  generalize (b.ask settings _ _ true w.rest).2 = d
  cases planValue (b.planAnswer settings instructions summary kinds w) with
  | ok v =>
    refine Gives.bind (gives_planOf v) ?_ ⟨w.files, d⟩
    refine Gives.bind (gives_report _ _) ?_
    exact gives_pure _
  | error f =>
    cases hf : f.isRuntime with
    | true =>
      simp only [hf, if_true]
      refine Gives.bind (gives_noteFailedPlan f) ?_ ⟨w.files, d⟩
      refine Gives.bind (gives_planOf Fallback.plan) ?_
      refine Gives.bind (gives_report _ _) ?_
      exact gives_pure _
    | false =>
      simp only [hf, Bool.false_eq_true, if_false]
      exact ⟨d, rfl⟩

theorem requestPlan_fst : (b.requestPlan settings instructions summary kinds w).1 =
    planned kinds (b.planAnswer settings instructions summary kinds w) := by
  obtain ⟨r, hr⟩ := requestPlan_apply b settings instructions summary kinds w
  rw [hr]

end

section

variable {kinds : List Plan.Kind} {answer : Except Failure Reply} {o : PlanOutcome} {f : Failure}
  {v : Json}

theorem planned_of_obtained (h : Obtained answer v) :
    planned kinds answer = .ok { items := Plan.restrict kinds (Plan.build v) } := by
  rw [planned, planValue_eq_ok_iff.2 h]

theorem planned_of_missed (h : Missed answer f) :
    planned kinds answer = if f.isRuntime then .ok (standIn kinds f) else .error f := by
  rw [planned, planValue_eq_error_iff.2 h]

theorem obtained_or_missed (answer : Except Failure Reply) :
    (∃ v, Obtained answer v) ∨ ∃ f, Missed answer f := by
  cases h : planValue answer with
  | ok v => exact Or.inl ⟨v, planValue_eq_ok_iff.1 h⟩
  | error f => exact Or.inr ⟨f, planValue_eq_error_iff.1 h⟩

/-- A reply without a value is masked, so only the runner can end the run. -/
theorem planned_eq_error_iff :
    planned kinds answer = .error f ↔ answer = .error f ∧ f.isRuntime = false := by
  cases answer with
  | error f' =>
    rw [planned_of_missed (Or.inl rfl)]
    cases hf : f'.isRuntime with
    | true =>
      constructor
      · intro h
        cases h
      · rintro ⟨h, hno⟩
        cases h
        rw [hf] at hno
        cases hno
    | false =>
      simp only [Bool.false_eq_true, if_false, Except.error.injEq]
      constructor
      · rintro rfl
        exact ⟨rfl, hf⟩
      · exact And.left
  | ok reply =>
    cases h : Reply.extractJson reply.display with
    | ok v =>
      rw [planned_of_obtained ⟨reply, rfl, h⟩]
      simp
    | error f' =>
      rw [planned_of_missed (Or.inr ⟨reply, rfl, h⟩), isRuntime_of_extractJson h]
      simp

end

section

variable {ρ : Type} [Log.Journal ρ] (b : Bench ρ) (settings : Config.Settings)
  (instructions : String) (summary : Summary) (kinds : List Plan.Kind) (w : Floor ρ)

/-- A request for a plan ends in a failure just when the runner answers with one that is not
masked. Else it comes to a plan: that of the value that is read from the reply, or the fallback plan
when none is. The files are as they were. -/
theorem requestPlan_ends :
    let answer := b.planAnswer settings instructions summary kinds w
    let result := b.requestPlan settings instructions summary kinds w
    (∀ f, result.1 = .error f ↔ answer = .error f ∧ f.isRuntime = false) ∧
    (∀ o, result.1 = .ok o →
      (o.fallback = true ↔ ∀ v, ¬ Obtained answer v) ∧
      (∀ v, Obtained answer v → o = { items := Plan.restrict kinds (Plan.build v) }) ∧
      ∀ f, Missed answer f → o = standIn kinds f) ∧
    result.2.files = w.files := by
  intro answer result
  have hfst : result.1 = planned kinds answer :=
    requestPlan_fst b settings instructions summary kinds w
  refine ⟨fun f => ?_, fun o ho => ?_, ?_⟩
  · rw [hfst, planned_eq_error_iff]
  · rw [hfst] at ho
    have hobtained : ∀ v, Obtained answer v →
        o = { items := Plan.restrict kinds (Plan.build v) } := by
      intro v hv
      rw [planned_of_obtained hv] at ho
      exact (Except.ok.inj ho).symm
    have hmissed : ∀ f, Missed answer f → o = standIn kinds f := by
      intro f hf
      rw [planned_of_missed hf] at ho
      split at ho <;> cases ho
      rfl
    refine ⟨?_, hobtained, hmissed⟩
    rcases obtained_or_missed answer with ⟨v, hv⟩ | ⟨f, hf⟩
    · rw [hobtained v hv]
      simp only [Bool.false_eq_true, false_iff, not_forall, not_not]
      exact ⟨v, hv⟩
    · have hnone : ∀ v, ¬ Obtained answer v := by
        intro v hv
        have hflag : false = true :=
          congrArg PlanOutcome.fallback ((hobtained v hv).symm.trans (hmissed f hf))
        cases hflag
      rw [hmissed f hf]
      simp only [standIn, true_iff]
      exact hnone
  · obtain ⟨r, hr⟩ := requestPlan_apply b settings instructions summary kinds w
    exact congrArg (fun x => x.2.files) hr

end

/-- A server that does not answer in time. -/
def slowServer : Transport (List Log.Record) := fun _ => pure (.broken (.timeout "timed out"))

/-- What a runner is set to when nothing but a key is given. -/
def usualSettings : Settings := .of [("OPENAI_API_KEY", "key")] (.ofConfig {})

/-- A bench in an empty tree, with this server. -/
def slowBench : Bench (List Log.Record) where
  here := .top []
  loader := Yaml.load
  fileSystem := .local
  runner := none
  build c := Runner.overWeb slowServer [("OPENAI_API_KEY", "key")] (.ofConfig c)
  progress := none

theorem slowBench_ask (prompt system : String) :
    (slowBench.ask { root := .top [] } prompt system true ⟨.empty, []⟩).1 =
      .error (.timeout "timed out") := by
  let r : Request := ⟨prompt, some system, true, usualSettings⟩
  have hwritten : ¬ r.settings.TooLong := by
    rintro ⟨n, hn | hn, -⟩ <;> simp [r, usualSettings, Settings.of, Options.ofConfig] at hn
  have hbase : usualSettings.baseUrl = defaultBaseUrl := by rfl
  have hurl : Url.check r.address = .ok "https://api.openai.com/v1/chat/completions" := by
    rw [Request.address, hbase]
    rfl
  have hanswer : ∀ w, (complete slowServer r w).1 = .error (.timeout "timed out") :=
    fun _ => complete_of_sent hwritten hurl
  obtain ⟨d, hfound⟩ : ∃ d, slowBench.findRunner { root := .top [] } ⟨.empty, []⟩ =
      (.ok ⟨usualSettings, complete slowServer⟩, d) := ⟨_, rfl⟩
  simp only [Bench.ask, bind, StateT.bind, hfound]
  exact hanswer _

/-- A server that does not answer in time ends the run. -/
theorem slowBench_ends_planning :
    (slowBench.requestPlan { root := .top [] } "an app" .empty [.directory, .file]
      ⟨Node.empty, .empty, []⟩).1 = .error (.timeout "timed out") := by
  rw [requestPlan_fst, planned_eq_error_iff, Bench.planAnswer]
  exact ⟨slowBench_ask _ _, rfl⟩

end Scaffold.Orchestration
