import Scaffold.Config.Load
import Scaffold.Proofs.Failure
import Scaffold.Proofs.Workspace.Confine

/-!
# How loading settings fails

Loading settings fails with refusals of a configuration, of the operating system and of the text
itself; with no failure of planning, of the provider or of a workspace (`load_failsOnly`). A value
that was read is refused for a fault of the configuration, or for a number too large for its use
(`ofValue_failsOnly`).
-/

namespace Scaffold.Config
open Scaffold.Workspace

/-- A failure of another kind than those of this library's stages. -/
def Foreign (f : Failure) : Prop := f.isDomain = false

/-- The failures that settings are refused with: a fault of the configuration, or a number too
large for its use. -/
inductive Refuses : Failure → Prop
  | fault (fault : ConfigFault) : Refuses (.config fault)
  | digits : Refuses .tooManyDigits
  | overflow : Refuses .overflow

theorem Refuses.foreign {f : Failure} (h : Refuses f) : Foreign f := by
  cases h <;> rfl

section

variable {cwd : Here} {l : Location} {top : Node}

theorem resolve_failsOnly (names : List String) : FailsOnly Foreign (top.resolve names) := by
  rcases resolve_cases top names with ⟨h, -⟩ | ⟨h, -⟩ | ⟨h, -⟩ <;> rw [h]
  · exact failsOnly_ok _
  · exact failsOnly_error.2 rfl
  · exact failsOnly_error.2 rfl

theorem statIfThere_failsOnly : FailsOnly Foreign (statIfThere cwd l top) := by
  unfold statIfThere
  split
  · exact failsOnly_ok none
  · split
    · exact failsOnly_ok _
    · split
      · exact failsOnly_ok none
      · exact failsOnly_error.2 rfl

theorem readText_failsOnly : FailsOnly Foreign (readText cwd l top) := by
  unfold readText
  split
  · exact failsOnly_error.2 rfl
  · split
    · exact failsOnly_error.2 rfl
    · split
      · exact failsOnly_ok _
      · exact failsOnly_error.2 rfl

theorem settingsLocation_failsOnly : FailsOnly Foreign (settingsLocation cwd l top) :=
  statIfThere_failsOnly.bind fun _ => resolve_failsOnly _

theorem readValue_failsOnly (loader : Loader) (file text : String) :
    FailsOnly Foreign (readValue loader file text) := by
  unfold readValue
  split
  · exact failsOnly_ok _
  · refine failsOnly_mapError (fun fault => ?_) _
    cases fault <;> rfl

end

section

variable (v : Yaml.Value) (entries : List (Yaml.Value × Yaml.Value))

theorem textOf?_failsOnly : FailsOnly Refuses (textOf? v) := by
  cases v with
  | int n =>
    rw [textOf?]
    split
    · exact failsOnly_error.2 .digits
    · exact failsOnly_ok _
  | _ => exact failsOnly_ok _

theorem doubleOf?_failsOnly : FailsOnly Refuses (doubleOf? v) := by
  cases v with
  | int n =>
    rw [doubleOf?]
    split
    · exact failsOnly_ok _
    · exact failsOnly_error.2 .overflow
  | _ => exact failsOnly_ok _

theorem textsOf_failsOnly : FailsOnly Refuses (textsOf v) := by
  unfold textsOf
  split
  · exact failsOnly_ok _
  · exact failsOnly_ok _
  · exact (FailsOnly.mapM textOf?_failsOnly _).bind fun _ => failsOnly_ok _
  · exact failsOnly_ok _

theorem kindsOf_failsOnly : FailsOnly Refuses (kindsOf v) :=
  (textsOf_failsOnly v).bind fun words =>
    failsOnly_mapError Refuses.fault (kindsOfWords words)

variable {α : Type} {read : Yaml.Value → Except Failure (Option α)}

theorem said_failsOnly (h : ∀ v, FailsOnly Refuses (read v)) (key : String) :
    FailsOnly Refuses (said read entries key) := by
  unfold said
  split
  · exact h _
  · exact failsOnly_ok none

theorem llmOf_failsOnly : FailsOnly Refuses (llmOf entries) :=
  (said_failsOnly entries textOf?_failsOnly _).bind fun _ =>
  (said_failsOnly entries textOf?_failsOnly _).bind fun _ =>
  (said_failsOnly entries textOf?_failsOnly _).bind fun _ =>
  (said_failsOnly entries doubleOf?_failsOnly _).bind fun _ =>
  (said_failsOnly entries (fun _ => failsOnly_ok _) _).bind fun _ =>
  (said_failsOnly entries doubleOf?_failsOnly _).bind fun _ => failsOnly_ok _

theorem generationOf_failsOnly : FailsOnly Refuses (generationOf entries) :=
  (said_failsOnly entries (fun _ => failsOnly_ok _) _).bind fun _ =>
  (said_failsOnly entries (fun _ => failsOnly_ok _) _).bind fun _ =>
  (said_failsOnly entries (fun v => (kindsOf_failsOnly v).map) _).bind fun _ =>
  (said_failsOnly entries (fun v => (textsOf_failsOnly v).map) _).bind fun _ => failsOnly_ok _

theorem storeOf_failsOnly (root : Location) : FailsOnly Refuses (storeOf root entries) := by
  refine (said_failsOnly entries textOf?_failsOnly _).bind fun said => ?_
  cases said with
  | none => exact failsOnly_ok none
  | some s => exact failsOnly_ok _

theorem ofValue_failsOnly (root : Location) : FailsOnly Refuses (ofValue root v) := by
  unfold ofValue
  split
  · exact failsOnly_ok _
  · split
    · exact (llmOf_failsOnly _).bind fun _ => (generationOf_failsOnly _).bind fun _ =>
        (storeOf_failsOnly _ root).bind fun _ => failsOnly_ok _
    · exact failsOnly_error.2 (.fault _)

end

theorem load_failsOnly (loader : Loader) (cwd : Here) (l : Location) (top : Node) :
    FailsOnly Foreign (load loader cwd l top) := by
  refine settingsLocation_failsOnly.bind fun file => (resolve_failsOnly _).bind fun root =>
    statIfThere_failsOnly.bind fun there => ?_
  cases there with
  | none => exact failsOnly_ok _
  | some n =>
    exact readText_failsOnly.bind fun text => (readValue_failsOnly loader _ text).bind fun v =>
      (ofValue_failsOnly v root).mono fun _ => Refuses.foreign

end Scaffold.Config
