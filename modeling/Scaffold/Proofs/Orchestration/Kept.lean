import Scaffold.Proofs.Generation.Kept
import Scaffold.Proofs.Orchestration.Materialize

/-!
# Passes keep what stands

Making the items of a plan writes a file only where the check found nothing, as a generation run
without overwriting does. `passes_keep` says of both that every file, directory and link of the tree
that they find is in the tree that they leave, as it was.
-/

namespace Scaffold.Orchestration
open Scaffold.Workspace Scaffold.Generation

/-- One item. -/
theorem keeps_place (root : Location) (item : Plan.Item) (top : Node) :
    Keeps top (place (.local root) item top).2 := by
  obtain ⟨path, kind, content⟩ := item
  cases kind with
  | directory => exact keeps_createDirectoryIn root path top
  | file =>
    rcases hp : prepare (.local root) path top with ⟨f | existed, mid⟩
    all_goals obtain ⟨hkeeps, hnone⟩ := keeps_prepare hp
    · simp only [place, bind, StateT.bind, hp]
      exact hkeeps
    · cases existed with
      | true =>
        simp only [place, bind, StateT.bind, hp]
        exact hkeeps
      | false =>
        simp only [place, bind, StateT.bind, hp]
        exact hkeeps.trans (keeps_writeFileIn (hnone rfl) _)

/-- The items one after the other, also when one of them ends the pass. -/
theorem keeps_materialize {ρ : Type} [Log.Journal ρ] (root : Location) (items : List Plan.Item)
    (w : World Node ρ) : Keeps w.files (materialize (.local root) items w).2.files := by
  induction items generalizing w with
  | nil => exact .refl w.files
  | cons item items ih =>
    have hone := keeps_place root item w.files
    rcases hp : place (.local root) item w.files with ⟨f | ⟨⟩, top⟩ <;> rw [hp] at hone
    · by_cases hf : ∃ path reason, f = .fileSystem path reason
      · obtain ⟨path, reason, rfl⟩ := hf
        rw [materialize_of_refused hp]
        exact hone.trans (ih ⟨top, Log.Journal.add ⟨.error, "orchestrator",
          s!"Failed to create {item.path}: {reason}"⟩ w.rest⟩)
      · have hother : ∀ path reason, f ≠ .fileSystem path reason :=
          fun path reason he => hf ⟨path, reason, he⟩
        rw [materialize_of_failure hp hother]
        exact hone
    · rw [materialize_of_made hp]
      exact hone.trans (ih ⟨top, w.rest⟩)

/-- A generation run without overwriting, and making the items of a plan, leave each file, directory
and link that they find in its place, with its bytes or its target, however they end. -/
theorem passes_keep {ρ : Type} [Log.Journal ρ] (root : Location) (provider : ContentProvider ρ)
    (progress : Option (Progress ρ)) (prompt : String) (targets : List String)
    (items : List Plan.Item) (w : World Node ρ) :
    Keeps w.files (generate (.local root) provider progress prompt targets false w).2.files ∧
      Keeps w.files (materialize (.local root) items w).2.files :=
  ⟨keeps_generate root provider progress prompt targets w, keeps_materialize root items w⟩

end Scaffold.Orchestration
