import Mathlib.Tactic
import Scaffold.Orchestration.Bench
import Scaffold.Proofs.Failure

/-!
# Steps of a run

A step of a run gives a result or a failure, and the next step takes over or does not
(`bind_of_ok`, `bind_of_error`). Steps that only report something always give the same
(`Gives`), and leave the files alone.
-/

namespace Scaffold.Orchestration
open Scaffold.Workspace Scaffold.Provider

section

variable {ρ α β : Type} {x : Task ρ α} {y : Task ρ β} {k : α → Task ρ β} {w w' : Floor ρ} {a : α}
  {b : β}

theorem bind_of_ok (h : x w = (.ok a, w')) : (x >>= k) w = k a w' := by
  simp only [bind, ExceptT.bind, ExceptT.mk, StateT.bind, h, ExceptT.bindCont]

theorem bind_of_error {f : Failure} (h : x w = (.error f, w')) : (x >>= k) w = (.error f, w') := by
  simp only [bind, ExceptT.bind, ExceptT.mk, StateT.bind, h, ExceptT.bindCont]
  rfl

/-- The step gives `a`, whatever it finds, and leaves the files alone. -/
def Gives (x : Task ρ α) (a : α) : Prop := ∀ w, ∃ r, x w = (.ok a, ⟨w.files, r⟩)

theorem gives_pure (a : α) : Gives (pure a : Task ρ α) a := fun w => ⟨w.rest, rfl⟩

theorem Gives.bind (hx : Gives x a) (hk : Gives (k a) b) : Gives (x >>= k) b := by
  intro w
  obtain ⟨r, hr⟩ := hx w
  obtain ⟨r', hr'⟩ := hk ⟨w.files, r⟩
  exact ⟨r', (bind_of_ok hr).trans hr'⟩

theorem onDesk_apply (act : StateM (RunnerDesk ρ) α) (w : Floor ρ) :
    onDesk act w = (.ok (act w.rest).1, ⟨w.files, (act w.rest).2⟩) := rfl

theorem give_apply (r : Except Failure α) (w : Floor ρ) : give r w = (r, w) := rfl

/-- The failures of a step, whatever it finds. -/
def StepFailsOnly (p : Failure → Prop) (x : Task ρ α) : Prop := ∀ w, FailsOnly p (x w).1

variable {p : Failure → Prop}

theorem Gives.failsOnly (h : Gives x a) : StepFailsOnly p x := by
  intro w
  obtain ⟨r, hr⟩ := h w
  rw [hr]
  exact failsOnly_ok a

theorem StepFailsOnly.bind (hx : StepFailsOnly p x) (hk : ∀ a, StepFailsOnly p (k a)) :
    StepFailsOnly p (x >>= k) := by
  intro w
  have hone := hx w
  rcases h : x w with ⟨f | a, w'⟩
  · rw [h] at hone
    rw [bind_of_error h]
    exact failsOnly_error.2 (failsOnly_error.1 hone)
  · rw [bind_of_ok h]
    exact hk a w'

theorem stepFailsOnly_pure (a : α) : StepFailsOnly p (pure a : Task ρ α) := (gives_pure a).failsOnly

theorem stepFailsOnly_onDesk (act : StateM (RunnerDesk ρ) α) : StepFailsOnly p (onDesk act) :=
  fun _ => failsOnly_ok _

/-- The results of a step, whatever it finds. -/
def StepEnsures (q : α → Prop) (x : Task ρ α) : Prop := ∀ w a, (x w).1 = .ok a → q a

variable {q : β → Prop}

theorem Gives.ensures (h : Gives y b) (hb : q b) : StepEnsures q y := by
  intro w b' hb'
  obtain ⟨r, hr⟩ := h w
  rw [hr] at hb'
  cases hb'
  exact hb

theorem give_ensures (r : Except Failure α) :
    StepEnsures (fun a => r = .ok a) (give r : Task ρ α) :=
  fun _ _ h => h

theorem StepEnsures.bind {p : α → Prop} (hx : StepEnsures p x)
    (hk : ∀ a, p a → StepEnsures q (k a)) : StepEnsures q (x >>= k) := by
  intro w b hb
  rcases h : x w with ⟨f | a, w'⟩
  · rw [bind_of_error h] at hb
    cases hb
  · rw [bind_of_ok h] at hb
    exact hk a (hx w a (congrArg Prod.fst h)) w' b hb

/-- The last step decides. -/
theorem StepEnsures.of_last (hk : ∀ a, StepEnsures q (k a)) : StepEnsures q (x >>= k) :=
  StepEnsures.bind (p := fun _ => True) (fun _ _ _ => trivial) fun a _ => hk a

end

section

variable {ρ : Type} [Log.Journal ρ]

theorem gives_report (level : Log.Level) (message : String) :
    Gives (report level message : Task ρ Unit) () :=
  fun w => ⟨Log.Journal.add ⟨level, "orchestrator", message⟩ w.rest, rfl⟩

/-- A report before a step. -/
theorem StepFailsOnly.reported {α : Type} {p : Failure → Prop} {x : Task ρ α}
    (h : StepFailsOnly p x) (level : Log.Level) (message : String) :
    StepFailsOnly p (report level message >>= fun _ => x) :=
  (gives_report level message).failsOnly.bind fun _ => h

end

end Scaffold.Orchestration
