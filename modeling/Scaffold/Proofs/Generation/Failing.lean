import Scaffold.Proofs.Failure
import Scaffold.Proofs.Generation.Steps
import Scaffold.Proofs.Workspace.Confine

/-!
# How a generation run fails

A generation run ends early with a failure of its file system, or with that of an answer that no
file can be written with (`generate_failsOnly`). When the workspace is listed, it ends with a
failure of the file system only (`summarize_failsOnly`).
-/

namespace Scaffold.Generation
open Scaffold.Workspace

/-- Each operation of a file system fails only with failures that satisfy `p`. -/
structure FailsWith {τ : Type} (p : Failure → Prop) (fs : FileSystem τ) : Prop where
  createDirectory : ∀ path s, FailsOnly p (fs.createDirectory path s).1
  exists? : ∀ path s, FailsOnly p (fs.exists? path s).1
  writeFile : ∀ path content s, FailsOnly p (fs.writeFile path content s).1
  listFiles : ∀ pattern exclude limit s, FailsOnly p (fs.listFiles pattern exclude limit s).1

/-- An operation of a workspace fails to resolve its path, or with the path itself. -/
theorem failsOnly_of_ending {root : Location} {top : Node} {path : String} {α : Type}
    {r : Except Failure α} {p : Failure → Prop} (h : Ending root top path r)
    (hfile : ∀ path reason, p (.fileSystem path reason)) (hnul : p Node.nulFailure)
    (hloop : ∀ message, p (.runtime message)) : FailsOnly p r := by
  cases h with
  | unresolved f hf =>
    obtain ⟨-, ⟨-, rfl⟩ | ⟨-, -, rfl⟩⟩ := hf
    · exact failsOnly_error.2 hnul
    · exact failsOnly_error.2 (hloop _)
  | refused reason _ => exact failsOnly_error.2 (hfile path reason)
  | done a _ => exact failsOnly_ok a

theorem local_failsWith {p : Failure → Prop} (hfile : ∀ path reason, p (.fileSystem path reason))
    (hnul : p Node.nulFailure) (hloop : ∀ message, p (.runtime message)) (root : Location) :
    FailsWith p (.local root) where
  createDirectory path top :=
    failsOnly_of_ending (createDirectoryIn_ending root path top) hfile hnul hloop
  exists? path top := failsOnly_of_ending (existsIn_ending root path top) hfile hnul hloop
  writeFile path content top :=
    failsOnly_of_ending (writeFileIn_ending root path content top) hfile hnul hloop
  listFiles _ _ _ _ := failsOnly_ok _

section

variable {τ ρ : Type} [Log.Journal ρ] {p : Failure → Prop} {fs : FileSystem τ}
  (hfs : FailsWith p fs) (provider : ContentProvider ρ) (progress : Option (Progress ρ))
  (prompt : String) (targets : List String) (overwrite : Bool)

theorem recordFailure_failsOnly {path : String} {f : Failure} (hf : p f) (w : World τ ρ) :
    FailsOnly p (recordFailure path f w).1 := by
  cases h : failureReason? f with
  | some reason =>
    rw [recordFailure_apply h]
    exact failsOnly_ok _
  | none =>
    rw [recordFailure_of_none h]
    exact failsOnly_error.2 hf

include hfs

theorem prepare_failsOnly (path : String) (s : τ) : FailsOnly p (prepare fs path s).1 := by
  have hdir := hfs.createDirectory (Plan.parent path) s
  rcases h : fs.createDirectory (Plan.parent path) s with ⟨f | ⟨⟩, s'⟩
  · rw [h] at hdir
    rw [prepare_of_error h]
    exact failsOnly_error.2 (failsOnly_error.1 hdir)
  · rw [prepare_of_ok h]
    exact hfs.exists? path s'

variable (hhalves : ∀ halves, p (.unencodable halves)) (htype : ∀ message, p (.type message))

include hhalves htype

theorem writeTarget_failsOnly (existed : Bool) (path : String) (w : World τ ρ) :
    FailsOnly p (writeTarget fs provider prompt targets existed path w).1 := by
  rcases hp : provider prompt targets path w.rest with ⟨reply, r⟩
  cases hwritable : unwritable? reply with
  | some f =>
    rw [writeTarget_of_unwritable hp hwritable]
    refine failsOnly_error.2 ?_
    rcases unwritable?_cases hwritable with ⟨halves, rfl⟩ | ⟨message, rfl⟩
    · exact hhalves halves
    · exact htype message
  | none =>
    have hwrite := hfs.writeFile path (contentBytes prompt path reply) w.files
    rcases h : fs.writeFile path (contentBytes prompt path reply) w.files with ⟨f | ⟨⟩, s⟩
    · rw [h] at hwrite
      rw [writeTarget_of_error hp hwritable h]
      exact recordFailure_failsOnly (failsOnly_error.1 hwrite) _
    · rw [writeTarget_of_ok hp hwritable h]
      exact failsOnly_ok _

theorem generateOne_failsOnly (path : String) (w : World τ ρ) :
    FailsOnly p (generateOne fs provider prompt targets overwrite path w).1 := by
  have hprepare := prepare_failsOnly hfs path w.files
  rcases h : prepare fs path w.files with ⟨f | existed, s⟩
  · rw [h] at hprepare
    rw [generateOne_of_error h]
    exact recordFailure_failsOnly (failsOnly_error.1 hprepare) _
  · by_cases may : existed = true → overwrite = true
    · rw [generateOne_of_may h may]
      exact writeTarget_failsOnly hfs provider prompt targets hhalves htype existed path _
    · obtain ⟨rfl, rfl⟩ := kept_of_not_may may
      rw [generateOne_of_exists h]
      exact failsOnly_ok _

theorem generateFrom_failsOnly (done : Nat) (paths : List String) (w : World τ ρ) :
    FailsOnly p
      (generateFrom fs provider progress prompt targets overwrite done paths w).1 := by
  induction paths generalizing done w with
  | nil => exact failsOnly_ok []
  | cons path paths ih =>
    have hone := generateOne_failsOnly hfs provider prompt targets overwrite hhalves htype path w
    rcases h : generateOne fs provider prompt targets overwrite path w with ⟨f | fate, w'⟩
    · rw [h] at hone
      rw [generateFrom_of_error h]
      exact failsOnly_error.2 (failsOnly_error.1 hone)
    · intro f hf
      exact ih _ _ f ((generateFrom_cons_eq_error_iff h).1 hf)

/-- A generation run ends early with a failure of its file system, or for an answer that no file can
be written with. -/
theorem generate_failsOnly (w : World τ ρ) :
    FailsOnly p (generate fs provider progress prompt targets overwrite w).1 := by
  have hall := generateFrom_failsOnly hfs provider progress prompt targets overwrite hhalves htype 0
    targets w
  rcases h : generateFrom fs provider progress prompt targets overwrite 0 targets w
    with ⟨f | fates, w'⟩
  · rw [h] at hall
    rw [generate_of_error h]
    exact failsOnly_error.2 (failsOnly_error.1 hall)
  · rw [generate_of_ok h]
    exact failsOnly_ok _

omit hhalves htype in
theorem summarize_failsOnly (limit : Int) (exclude : List String) (w : World τ ρ) :
    FailsOnly p (summarize fs limit exclude w).1 := by
  have hlist := hfs.listFiles "**/*" exclude limit w.files
  rcases h : fs.listFiles "**/*" exclude limit w.files with ⟨f | files, s⟩
  · rw [h] at hlist
    simp only [summarize, bind, StateT.bind, World.onFiles, h]
    split
    · exact failsOnly_ok _
    · exact failsOnly_error.2 (failsOnly_error.1 hlist)
  · simp only [summarize, bind, StateT.bind, World.onFiles, h]
    exact failsOnly_ok _

end

end Scaffold.Generation
