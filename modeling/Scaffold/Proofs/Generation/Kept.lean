import Scaffold.Proofs.Generation.Steps
import Scaffold.Proofs.Workspace.Calls

/-!
# A generation run keeps what stands

A run that may not overwrite writes a target only when the check found nothing at its path. The
check and the write resolve the path in the same tree, so the write meets nothing either, whatever
the links (`keeps_writeTarget`). Target after target, all that stood before the run stands after it
(`keeps_generate`).
-/

namespace Scaffold.Generation
open Scaffold.Workspace

section

variable {root : Location} {top top' : Node} {path : String}

/-- The directory of a target is made without loss, and a target that is then not found does not
exist in the tree that it left. -/
theorem keeps_prepare {answer : Except Failure Bool}
    (h : prepare (.local root) path top = (answer, top')) :
    Keeps top top' ∧ (answer = .ok false → existsIn root path top' = .ok false) := by
  have hkeeps := keeps_createDirectoryIn root (Plan.parent path) top
  rcases hd : createDirectoryIn root (Plan.parent path) top with ⟨f | ⟨⟩, mid⟩ <;> rw [hd] at hkeeps
  · have hcalled : (FileSystem.local root).createDirectory (Plan.parent path) top =
        (.error f, mid) := hd
    rw [prepare_of_error hcalled] at h
    cases h
    exact ⟨hkeeps, fun he => by cases he⟩
  · have hcalled : (FileSystem.local root).createDirectory (Plan.parent path) top =
        (.ok (), mid) := hd
    rw [prepare_of_ok hcalled] at h
    cases h
    exact ⟨hkeeps, id⟩

end

section

variable {ρ : Type} [Log.Journal ρ] (root : Location) (provider : ContentProvider ρ)
  (progress : Option (Progress ρ)) (prompt : String) (targets : List String)

theorem files_recordFailure {τ : Type} (path : String) (f : Failure) (w : World τ ρ) :
    (recordFailure path f w).2.files = w.files := by
  cases hr : failureReason? f with
  | none => rw [recordFailure_of_none hr]
  | some reason => rw [recordFailure_apply hr]

/-- A target that does not exist is written without loss. -/
theorem keeps_writeTarget (existed : Bool) {path : String} (w : World Node ρ)
    (h : existsIn root path w.files = .ok false) :
    Keeps w.files (writeTarget (.local root) provider prompt targets existed path w).2.files := by
  rcases hp : provider prompt targets path w.rest with ⟨reply, r⟩
  cases hwritable : unwritable? reply with
  | some f =>
    rw [writeTarget_of_unwritable hp hwritable]
    exact .refl w.files
  | none =>
    have hkeeps := keeps_writeFileIn h (contentBytes prompt path reply)
    rcases hw : writeFileIn root path (contentBytes prompt path reply) w.files
      with ⟨f | ⟨⟩, top⟩ <;> rw [hw] at hkeeps
    · have hcalled : (FileSystem.local root).writeFile path (contentBytes prompt path reply)
          w.files = (.error f, top) := hw
      rw [writeTarget_of_error hp hwritable hcalled, files_recordFailure]
      exact hkeeps
    · have hcalled : (FileSystem.local root).writeFile path (contentBytes prompt path reply)
          w.files = (.ok (), top) := hw
      rw [writeTarget_of_ok hp hwritable hcalled]
      exact hkeeps

/-- One target. -/
theorem keeps_generateOne (path : String) (w : World Node ρ) :
    Keeps w.files (generateOne (.local root) provider prompt targets false path w).2.files := by
  rcases hp : prepare (.local root) path w.files with ⟨f | existed, top⟩
  · obtain ⟨hkeeps, -⟩ := keeps_prepare hp
    rw [generateOne_of_error hp, files_recordFailure]
    exact hkeeps
  · obtain ⟨hkeeps, hnone⟩ := keeps_prepare hp
    cases existed with
    | true =>
      rw [generateOne_of_exists hp]
      exact hkeeps
    | false =>
      rw [generateOne_of_may hp (fun he => by cases he)]
      exact hkeeps.trans
        (keeps_writeTarget root provider prompt targets false ⟨top, w.rest⟩ (hnone rfl))

/-- The targets one after the other, also when one of them ends the run. -/
theorem keeps_generateFrom (paths : List String) (done : Nat) (w : World Node ρ) :
    Keeps w.files
      (generateFrom (.local root) provider progress prompt targets false done paths w).2.files := by
  induction paths generalizing done w with
  | nil => exact .refl w.files
  | cons path paths ih =>
    have hone := keeps_generateOne root provider prompt targets path w
    rcases hw : generateOne (.local root) provider prompt targets false path w with
      ⟨f | fate, w'⟩ <;> rw [hw] at hone
    · rw [generateFrom_of_error hw]
      exact hone
    · rw [generateFrom_cons hw]
      exact hone.trans (ih (done + 1) ⟨w'.files,
        reported progress (done + 1) targets.length (fate.message path) w'.rest⟩)

theorem keeps_generate (w : World Node ρ) :
    Keeps w.files (generate (.local root) provider progress prompt targets false w).2.files := by
  have hrun := keeps_generateFrom root provider progress prompt targets targets 0 w
  rcases hw : generateFrom (.local root) provider progress prompt targets false 0 targets w with
    ⟨f | fates, w'⟩ <;> rw [hw] at hrun
  · rw [generate_of_error hw]
    exact hrun
  · rw [generate_of_ok hw]
    exact hrun

end

end Scaffold.Generation
