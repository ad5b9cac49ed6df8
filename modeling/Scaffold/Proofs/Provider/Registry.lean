import Mathlib.Tactic
import Scaffold.Provider.Registry

/-!
# The registry among callers

Several callers act on one registry (`Act`), in any order; telling of loaded settings takes two
acts, between which others may come. What builds runners (`Factory`) may fail, and is recorded with
its answers.

* `resolve_cases`, `settle_cases` - the ways a request for a runner ends, and a telling of settings;
* `paired_run` - what is kept comes from one call of the factory, whatever the callers did;
* `pending_run` - a caller that told of settings drops the runner, or not, by what was found then;
* `run_serves` - no caller is handed a runner that was built from other settings.
-/

namespace Scaffold.Provider
open Scaffold.Config

/-- A call of what builds runners. -/
structure Building (R : Type) where
  config : Llm
  answer : Except Failure R

/-- What builds runners; it may remember its calls. -/
abbrev Factory (R : Type) := List (Building R) → Llm → Except Failure R

/-- Call it. -/
def Factory.call {R : Type} (f : Factory R) (config : Llm) :
    StateM (List (Building R)) (Except Failure R) := fun calls =>
  (f calls config, calls ++ [⟨config, f calls config⟩])

/-- A registry that callers share. -/
structure Shared (R : Type) where
  registry : Registry R
  /-- the calls of what builds runners, in order -/
  calls : List (Building R)
  /-- the callers that have recorded settings, with what they found, and have still to settle -/
  pending : Nat → Option Bool

/-- What a caller does to a registry without interruption. -/
inductive Act
  | resolve (config : Llm)
  | reset
  | notify (keys : List String)
  /-- the first step of telling of loaded settings -/
  | record (caller : Nat) (config : Llm)
  /-- the second step -/
  | settle (caller : Nat)

/-- What a caller hears. -/
inductive Answer (R : Type)
  | runner (result : Except Failure R)
  | dropped (isDropped : Bool)
  | nothing

/-- The act is a step of a caller's telling of settings. -/
def Act.isBy (caller : Nat) : Act → Bool
  | record k _ | settle k => k == caller
  | _ => false

/-- What the settings say that the act records. -/
def Act.recorded? : Act → Option Llm.Signature
  | record _ config => some config.signature
  | _ => none

namespace Shared

variable {R : Type}

/-- Nothing has happened. -/
def start : Shared R := ⟨.empty, [], fun _ => none⟩

/-- One act. -/
def step (f : Factory R) (s : Shared R) : Act → Answer R × Shared R
  | .resolve config =>
    let ((result, registry), calls) := s.registry.resolve f.call config s.calls
    (.runner result, { s with registry, calls })
  | .reset => (.nothing, { s with registry := s.registry.reset })
  | .notify keys =>
    let (isDropped, registry) := s.registry.notify keys
    (.dropped isDropped, { s with registry })
  | .record caller config =>
    (.nothing, { s with
      registry := s.registry.record config
      pending := Function.update s.pending caller (some (s.registry.differs config)) })
  | .settle caller =>
    match s.pending caller with
    | none => (.nothing, s)
    | some differed =>
      let (isDropped, registry) := s.registry.settle differed
      (.dropped isDropped,
        { s with registry, pending := Function.update s.pending caller none })

/-- Acts one after the other. -/
def run (f : Factory R) (s : Shared R) (acts : List Act) : Shared R :=
  acts.foldl (fun s act => (s.step f act).2) s

variable (f : Factory R) (s : Shared R)

theorem run_cons (act : Act) (acts : List Act) :
    s.run f (act :: acts) = (s.step f act).2.run f acts := rfl

end Shared

section

variable {R : Type} {f : Factory R} {s : Shared R}

/-! ### One act -/

/-- A runner that is kept is handed out if it was built from settings that say the same. Else the
factory is called, and what it fails with changes nothing. -/
theorem resolve_cases (f : Factory R) (s : Shared R) (config : Llm) :
    (∃ runner, s.registry.runner = some runner ∧
        s.registry.signature = some config.signature ∧
        s.step f (.resolve config) = (.runner (.ok runner), s)) ∨
      (s.registry.runner = none ∨ s.registry.signature ≠ some config.signature) ∧
        ((∃ runner, f s.calls config = .ok runner ∧
            s.step f (.resolve config) = (.runner (.ok runner),
              ⟨s.registry.keep config runner, s.calls ++ [⟨config, .ok runner⟩], s.pending⟩)) ∨
          ∃ failure, f s.calls config = .error failure ∧
            s.step f (.resolve config) = (.runner (.error failure),
              ⟨s.registry, s.calls ++ [⟨config, .error failure⟩], s.pending⟩)) := by
  have hcalled : s.registry.current? config = none →
      (∃ runner, f s.calls config = .ok runner ∧
        s.step f (.resolve config) = (.runner (.ok runner),
          ⟨s.registry.keep config runner, s.calls ++ [⟨config, .ok runner⟩], s.pending⟩)) ∨
      ∃ failure, f s.calls config = .error failure ∧
        s.step f (.resolve config) = (.runner (.error failure),
          ⟨s.registry, s.calls ++ [⟨config, .error failure⟩], s.pending⟩) := by
    intro hnone
    cases hanswer : f s.calls config with
    | ok runner =>
      refine Or.inl ⟨runner, rfl, ?_⟩
      simp only [Shared.step, Registry.resolve, hnone, bind, StateT.bind, Factory.call, hanswer]
      rfl
    | error failure =>
      refine Or.inr ⟨failure, rfl, ?_⟩
      simp only [Shared.step, Registry.resolve, hnone, bind, StateT.bind, Factory.call, hanswer]
      rfl
  by_cases hsame : s.registry.signature = some config.signature
  · cases hrunner : s.registry.runner with
    | some runner =>
      have hcurrent : s.registry.current? config = some runner := by
        rw [Registry.current?, if_pos hsame, hrunner]
      refine Or.inl ⟨runner, rfl, hsame, ?_⟩
      simp only [Shared.step, Registry.resolve, hcurrent]
      rfl
    | none =>
      refine Or.inr ⟨Or.inl rfl, hcalled ?_⟩
      rw [Registry.current?, if_pos hsame, hrunner]
  · exact Or.inr ⟨Or.inr hsame, hcalled (if_neg hsame)⟩

/-- Changed keys drop the runner or leave the registry as it is. -/
theorem notify_cases (keys : List String) (r : Registry R) :
    r.notify keys = (true, r.reset) ∨ r.notify keys = (false, r) := by
  unfold Registry.notify
  split
  · exact Or.inl rfl
  · exact Or.inr rfl

/-- A caller that has recorded nothing does nothing; else what it found then is what counts. -/
theorem settle_cases (f : Factory R) (s : Shared R) (caller : Nat) :
    s.pending caller = none ∧ s.step f (.settle caller) = (.nothing, s) ∨
      ∃ differed, s.pending caller = some differed ∧
        s.step f (.settle caller) = (.dropped differed,
          ⟨if differed then s.registry.reset else s.registry, s.calls,
            Function.update s.pending caller none⟩) := by
  cases hpending : s.pending caller with
  | none => exact Or.inl ⟨rfl, by simp only [Shared.step, hpending]⟩
  | some differed =>
    refine Or.inr ⟨differed, rfl, ?_⟩
    simp only [Shared.step, hpending]
    cases differed <;> rfl

/-! ### What is kept -/

/-- No runner is kept and no signature; or both are of one call of the factory, the last one that
did not fail. -/
def Paired (s : Shared R) : Prop :=
  s.registry.runner = none ∧ s.registry.signature = none ∨
    ∃ front config runner back, s.calls = front ++ ⟨config, .ok runner⟩ :: back ∧
      (∀ call ∈ back, ∃ failure, call.answer = .error failure) ∧
      s.registry.runner = some runner ∧ s.registry.signature = some config.signature

theorem paired_reset (calls : List (Building R)) (pending : Nat → Option Bool) (r : Registry R) :
    Paired ⟨r.reset, calls, pending⟩ :=
  Or.inl ⟨rfl, rfl⟩

theorem paired_step (h : Paired s) (act : Act) : Paired (s.step f act).2 := by
  cases act with
  | resolve config =>
    rcases resolve_cases f s config with
      ⟨runner, -, -, hstep⟩ | ⟨-, ⟨runner, -, hstep⟩ | ⟨failure, -, hstep⟩⟩ <;> rw [hstep]
    · exact h
    · exact Or.inr ⟨s.calls, config, runner, [], rfl, by simp, rfl, rfl⟩
    · -- the call that failed is one more behind the one whose runner is kept
      rcases h with hnone | ⟨front, config', runner, back, hcalls, hback, hkept⟩
      · exact Or.inl hnone
      · refine Or.inr ⟨front, config', runner, back ++ [⟨config, .error failure⟩], ?_, ?_, hkept⟩
        · simp only [hcalls, List.append_assoc, List.cons_append]
        · intro call hcall
          rcases List.mem_append.1 hcall with hold | hnew
          · exact hback call hold
          · rw [List.mem_singleton.1 hnew]
            exact ⟨failure, rfl⟩
  | reset => exact paired_reset _ _ _
  | notify keys =>
    rcases notify_cases keys s.registry with hnotify | hnotify <;>
      simp only [Shared.step, hnotify]
    · exact paired_reset _ _ _
    · exact h
  | record caller config => exact h
  | settle caller =>
    rcases settle_cases f s caller with ⟨-, hstep⟩ | ⟨differed, -, hstep⟩ <;> rw [hstep]
    · exact h
    · cases differed with
      | true => exact paired_reset _ _ _
      | false => exact h

theorem paired_run (h : Paired s) (acts : List Act) : Paired (s.run f acts) := by
  induction acts generalizing s with
  | nil => exact h
  | cons act acts ih => exact ih (paired_step h act)

/-! ### What was recorded -/

theorem observed_step (act : Act) :
    (s.step f act).2.registry.observed = act.recorded?.or s.registry.observed := by
  cases act with
  | resolve config =>
    rcases resolve_cases f s config with
      ⟨runner, -, -, hstep⟩ | ⟨-, ⟨runner, -, hstep⟩ | ⟨failure, -, hstep⟩⟩ <;> rw [hstep] <;> rfl
  | reset => rfl
  | notify keys =>
    rcases notify_cases keys s.registry with hnotify | hnotify <;>
      simp only [Shared.step, hnotify] <;> rfl
  | record caller config => rfl
  | settle caller =>
    rcases settle_cases f s caller with ⟨-, hstep⟩ | ⟨differed, -, hstep⟩ <;> rw [hstep]
    · rfl
    · cases differed <;> rfl

/-- The settings that were recorded last are remembered. -/
theorem observed_run (acts : List Act) :
    (s.run f acts).registry.observed =
      (acts.filterMap Act.recorded?).getLast?.or s.registry.observed := by
  induction acts generalizing s with
  | nil => rfl
  | cons act acts ih =>
    rw [Shared.run_cons, ih, observed_step]
    cases hact : act.recorded? with
    | none => rw [List.filterMap_cons_none hact, Option.none_or]
    | some signature =>
      rw [List.filterMap_cons_some hact, List.getLast?_cons]
      cases (acts.filterMap Act.recorded?).getLast? <;> rfl

/-- The acts of others do not touch what a caller has found. -/
theorem pending_run {caller : Nat} {acts : List Act} (h : ∀ act ∈ acts, act.isBy caller = false) :
    (s.run f acts).pending caller = s.pending caller := by
  induction acts generalizing s with
  | nil => rfl
  | cons act acts ih =>
    rw [Shared.run_cons, ih fun a ha => h a (List.mem_cons_of_mem act ha)]
    have hact := h act List.mem_cons_self
    cases act with
    | resolve config =>
      rcases resolve_cases f s config with
        ⟨runner, -, -, hstep⟩ | ⟨-, ⟨runner, -, hstep⟩ | ⟨failure, -, hstep⟩⟩ <;> rw [hstep]
    | reset => rfl
    | notify keys => rfl
    | record k config => exact Function.update_of_ne (Ne.symm (by simpa [Act.isBy] using hact)) _ _
    | settle k =>
      have hne : caller ≠ k := Ne.symm (by simpa [Act.isBy] using hact)
      rcases settle_cases f s k with ⟨-, hstep⟩ | ⟨differed, -, hstep⟩ <;> rw [hstep]
      exact Function.update_of_ne hne _ _

theorem differs_iff {r : Registry R} {config : Llm} :
    r.differs config = true ↔ ∃ before, r.observed = some before ∧ before ≠ config.signature := by
  unfold Registry.differs
  cases r.observed with
  | none => simp
  | some before => simp

end

/-! ### Any run -/

/-- How a request for a runner is met: with the one that is kept, if the settings say the same; else
the factory is called, and what it fails with changes nothing. Whatever runner is handed out was
built from settings that say the same. -/
structure Serves {R : Type} (f : Factory R) (s : Shared R) (config : Llm) : Prop where
  kept : ∀ runner, s.registry.runner = some runner →
    s.registry.signature = some config.signature →
      s.step f (.resolve config) = (.runner (.ok runner), s)
  called : s.registry.runner = none ∨ s.registry.signature ≠ some config.signature →
    (s.step f (.resolve config)).1 = .runner (f s.calls config) ∧
      (s.step f (.resolve config)).2.calls = s.calls ++ [⟨config, f s.calls config⟩]
  failed : ∀ failure, (s.step f (.resolve config)).1 = .runner (.error failure) →
    (s.step f (.resolve config)).2.registry = s.registry
  built : ∀ runner, (s.step f (.resolve config)).1 = .runner (.ok runner) →
    ∃ call ∈ (s.step f (.resolve config)).2.calls,
      call.answer = .ok runner ∧ call.config.signature = config.signature

/-- How a caller tells of loaded settings: whatever others do before the second step, it drops the
runner just when settings had been recorded before that say something else. Without others in
between this is what `Registry.observe` does. -/
structure Observes {R : Type} (f : Factory R) (s : Shared R) (caller : Nat) (config : Llm) :
    Prop where
  settled : ∀ acts, (∀ act ∈ acts, act.isBy caller = false) →
    let later := (s.step f (.record caller config)).2.run f acts
    ∃ differed, (differed = true ↔ ∃ before, s.registry.observed = some before ∧
        before ≠ config.signature) ∧
      (later.step f (.settle caller)).1 = .dropped differed ∧
      (later.step f (.settle caller)).2.registry =
        if differed then later.registry.reset else later.registry
  at_once : let told := (s.step f (.record caller config)).2.step f (.settle caller)
    told.1 = .dropped (s.registry.observe config).1 ∧
      told.2.registry = (s.registry.observe config).2

section

variable {R : Type} {s : Shared R}

theorem Paired.serves (h : Paired s) (f : Factory R) (config : Llm) : Serves f s config := by
  rcases resolve_cases f s config with ⟨runner, hrunner, hsame, hstep⟩ | ⟨hother, hcalled⟩
  · -- the runner that is kept
    constructor
    · intro runner' hrunner' _
      rw [hstep, Option.some.inj (hrunner.symm.trans hrunner')]
    · rintro (hnone | hne)
      · rw [hrunner] at hnone
        cases hnone
      · exact absurd hsame hne
    · intro failure hfail
      rw [hstep] at hfail
      cases hfail
    · intro runner' hok
      rw [hstep] at hok ⊢
      cases hok
      rcases h with ⟨hnone, -⟩ | ⟨front, config', built, back, hcalls, -, hkept, hsignature⟩
      · rw [hrunner] at hnone
        cases hnone
      · refine ⟨⟨config', .ok built⟩, by rw [hcalls]; simp, ?_, ?_⟩
        · rw [Option.some.inj (hkept.symm.trans hrunner)]
        · exact Option.some.inj (hsignature.symm.trans hsame)
  · have hkept : ∀ runner, s.registry.runner = some runner →
        s.registry.signature = some config.signature →
          s.step f (.resolve config) = (.runner (.ok runner), s) := by
      intro runner hrunner hsame
      rcases hother with hnone | hne
      · rw [hrunner] at hnone
        cases hnone
      · exact absurd hsame hne
    rcases hcalled with ⟨runner, hanswer, hstep⟩ | ⟨failure, hanswer, hstep⟩
    · -- a new runner
      refine ⟨hkept, fun _ => by rw [hstep, hanswer]; exact ⟨rfl, rfl⟩, ?_, ?_⟩
      · intro failure hfail
        rw [hstep] at hfail
        cases hfail
      · intro runner' hok
        rw [hstep] at hok ⊢
        cases hok
        exact ⟨⟨config, .ok runner⟩, by simp, rfl, rfl⟩
    · -- a failure
      refine ⟨hkept, fun _ => by rw [hstep, hanswer]; exact ⟨rfl, rfl⟩, ?_, ?_⟩
      · intro failure' _
        rw [hstep]
      · intro runner' hok
        rw [hstep] at hok
        cases hok

theorem observes (f : Factory R) (s : Shared R) (caller : Nat) (config : Llm) :
    Observes f s caller config := by
  have hfound : (s.step f (.record caller config)).2.pending caller =
      some (s.registry.differs config) := Function.update_self _ _ _
  constructor
  · intro acts hacts later
    have hpending : later.pending caller = some (s.registry.differs config) :=
      (pending_run hacts).trans hfound
    rcases settle_cases f later caller with ⟨hnone, -⟩ | ⟨differed, hdiffered, hstep⟩
    · rw [hpending] at hnone
      cases hnone
    · obtain rfl : s.registry.differs config = differed :=
        Option.some.inj (hpending.symm.trans hdiffered)
      exact ⟨s.registry.differs config, differs_iff, by rw [hstep], by rw [hstep]⟩
  · intro told
    have htold : told = (s.step f (.record caller config)).2.step f (.settle caller) := rfl
    simp only [Shared.step, Function.update_self] at htold
    rw [htold]
    exact ⟨rfl, rfl⟩

theorem calls_step (f : Factory R) (s : Shared R) {act : Act}
    (h : ∀ config, act ≠ .resolve config) : (s.step f act).2.calls = s.calls := by
  cases act with
  | resolve config => exact absurd rfl (h config)
  | reset => rfl
  | notify keys => rfl
  | record caller config => rfl
  | settle caller =>
    rcases settle_cases f s caller with ⟨-, hstep⟩ | ⟨differed, -, hstep⟩ <;> rw [hstep]

/-- Whatever callers do, in any order: what is kept is nothing or comes from one call of the
factory; no request is met with a runner that was built from settings that say something else;
nothing but a request calls the factory; and telling of settings drops the runner just when they
differ from those recorded before. -/
theorem run_serves (f : Factory R) (acts : List Act) :
    let s := (Shared.start (R := R)).run f acts
    Paired s ∧ s.registry.observed = (acts.filterMap Act.recorded?).getLast? ∧
      (∀ config, Serves f s config) ∧
      (∀ act, (∀ config, act ≠ .resolve config) → (s.step f act).2.calls = s.calls) ∧
      ∀ caller config, Observes f s caller config := by
  intro s
  have hpaired : Paired s := paired_run (Or.inl ⟨rfl, rfl⟩) acts
  refine ⟨hpaired, ?_, hpaired.serves f, fun _ => calls_step f s, observes f s⟩
  exact (observed_run acts).trans (Option.or_none ..)

end

end Scaffold.Provider
