import Scaffold.Proofs.Generation.Outcome
import Scaffold.Proofs.Generation.Steps
import Scaffold.Proofs.Workspace.Confine
import Scaffold.Proofs.Workspace.Linkless

/-!
# Generation in a workspace

On the file system of a workspace a run ends early in two ways only. At its turn, the directory of
a target cannot be resolved, or it is made and the target itself cannot (`Stops`); or the target may
be written, and what the provider answers is nothing that a file can be written with (`HaltsAt`).

* `prepare_local` - what the directory and the check end in;
* `not_stops_linkless` - without links no target of a plan stops a run;
* `generateOne_error_iff` - one target;
* `generateFrom_error_iff` - the targets one after the other: the first that ends the run.
-/

namespace Scaffold.Generation
open Scaffold.Workspace

/-- An element behind a front that was run is the first one, with nothing run before it, or it is
one of the others. -/
theorem exists_front_cons_iff {α β ω : Type} {ran : List α → β → ω → Prop}
    {stops : ω → α → Prop} {a : α} {l : List α} :
    (∃ front x back b w, a :: l = front ++ x :: back ∧ ran front b w ∧ stops w x) ↔
      (∃ b w, ran [] b w ∧ stops w a) ∨
        ∃ front x back b w, l = front ++ x :: back ∧ ran (a :: front) b w ∧ stops w x := by
  constructor
  · rintro ⟨front, x, back, b, w, he, hran, hstops⟩
    cases front with
    | nil =>
      obtain ⟨rfl, rfl⟩ := List.cons.inj he
      exact Or.inl ⟨b, w, hran, hstops⟩
    | cons c front =>
      obtain ⟨rfl, rfl⟩ := List.cons.inj he
      exact Or.inr ⟨front, x, back, b, w, rfl, hran, hstops⟩
  · rintro (⟨b, w, hran, hstops⟩ | ⟨front, x, back, b, w, rfl, hran, hstops⟩)
    · exact ⟨[], a, l, b, w, rfl, hran, hstops⟩
    · exact ⟨a :: front, x, back, b, w, rfl, hran, hstops⟩

/-- The target stops a run that finds this tree, and what it stops with. -/
def Stops (root : Location) (top : Node) (path : String) (f : Failure) : Prop :=
  Unresolvable root top (Plan.parent path) f ∨
    ∃ top', createDirectoryIn root (Plan.parent path) top = (.ok (), top') ∧
      Unresolvable root top' path f

section

variable {root : Location} {top : Node} {path : String} {f f' : Failure}

/-- A directory that is made was resolved. -/
theorem not_unresolvable_of_created {top' : Node}
    (h : createDirectoryIn root path top = (.ok (), top')) : ¬ Unresolvable root top path f := by
  have hend := createDirectoryIn_ending root path top
  rw [h] at hend
  cases hend with
  | done _ hno => exact hno f

theorem Stops.unique (h : Stops root top path f) (h' : Stops root top path f') : f = f' := by
  rcases h with h | ⟨top₁, hc, h⟩ <;> rcases h' with h' | ⟨top₂, hc', h'⟩
  · exact h.unique h'
  · exact absurd h (not_unresolvable_of_created hc')
  · exact absurd h' (not_unresolvable_of_created hc)
  · rw [hc] at hc'
    obtain rfl := (Prod.mk.inj hc').2
    exact h.unique h'

theorem failureReason?_of_unresolvable (h : Unresolvable root top path f) :
    failureReason? f = none := by
  obtain ⟨-, ⟨-, rfl⟩ | ⟨-, -, rfl⟩⟩ := h <;> rfl

/-- The directory of a target and the check for it: the target stops the run, or it is refused, or
it is known whether it exists and it can be resolved. -/
theorem prepare_local (root : Location) (path : String) (top : Node) :
    (∃ f top', Stops root top path f ∧ failureReason? f = none ∧
        prepare (.local root) path top = (.error f, top')) ∨
      (∀ f, ¬ Stops root top path f) ∧
        ((∃ place reason top', prepare (.local root) path top =
            (.error (.fileSystem place reason), top')) ∨
          ∃ existed top', prepare (.local root) path top = (.ok existed, top') ∧
            ∀ f, ¬ Unresolvable root top' path f) := by
  have hdir := createDirectoryIn_ending root (Plan.parent path) top
  rcases hd : createDirectoryIn root (Plan.parent path) top with ⟨r, top'⟩
  rw [hd] at hdir
  have hcalled : (FileSystem.local root).createDirectory (Plan.parent path) top = (r, top') := hd
  cases hdir with
  | unresolved f h =>
    exact Or.inl ⟨f, top', Or.inl h, failureReason?_of_unresolvable h, prepare_of_error hcalled⟩
  | refused reason hno =>
    refine Or.inr ⟨?_, Or.inl ⟨_, reason, top', prepare_of_error hcalled⟩⟩
    rintro f (h | ⟨top₂, hc, -⟩)
    · exact hno f h
    · rw [hd] at hc
      cases (Prod.mk.inj hc).1
  | done u hno =>
    -- the check finds the tree with the new directory in it
    have hprepare : prepare (.local root) path top = (existsIn root path top', top') :=
      prepare_of_ok hcalled
    have hstops : ∀ f, Stops root top path f → Unresolvable root top' path f := by
      rintro f (h | ⟨top₂, hc, h⟩)
      · exact absurd h (hno f)
      · rw [hd] at hc
        rw [(Prod.mk.inj hc).2]
        exact h
    have hexists := existsIn_ending root path top'
    cases hx : existsIn root path top' with
    | error f =>
      rw [hx] at hexists hprepare
      cases hexists with
      | unresolved _ h =>
        exact Or.inl ⟨f, top', Or.inr ⟨top', hd, h⟩, failureReason?_of_unresolvable h, hprepare⟩
      | refused reason h =>
        exact Or.inr ⟨fun f hf => h f (hstops f hf), Or.inl ⟨path, reason, top', hprepare⟩⟩
    | ok existed =>
      rw [hx] at hexists hprepare
      cases hexists with
      | done _ h =>
        exact Or.inr ⟨fun f hf => h f (hstops f hf), Or.inr ⟨existed, top', hprepare, h⟩⟩

end

/-! ### Without links -/

section

variable {root names : List String} {top : Node} {path : String} (h : Linkless top root)

include h

/-- In a workspace without links, a path that is spelled by names is resolved. -/
theorem not_unresolvable_linkless (hpath : Spelled path names) (f : Failure) :
    ¬ Unresolvable (.top root) top path f := by
  have hend := confine_ending (.top root) top path
  rw [confine_linkless h hpath] at hend
  cases hend with
  | done _ hno => exact hno f

theorem not_stops_linkless {last : String} (hpath : Spelled path (names ++ [last]))
    (hparent : Spelled (Plan.parent path) names) (f : Failure) :
    ¬ Stops (.top root) top path f := by
  rintro (hstops | ⟨mid, hmid, hstops⟩)
  · exact not_unresolvable_linkless h hparent f hstops
  · rcases createDirectoryIn_cases h hparent with ⟨mid', he, hfree, -⟩ | ⟨cause, mid', he, -⟩ <;>
      rw [hmid] at he <;> cases he
    exact not_unresolvable_linkless hfree hpath f hstops

end

/-! ### Targets -/

section

variable {ρ : Type} [Log.Journal ρ] (root : Location) (provider : ContentProvider ρ)
  (progress : Option (Progress ρ)) (prompt : String) (targets : List String) (overwrite : Bool)

/-- The target may be written, and what the provider answers is nothing that a file can be written
with. -/
def HaltsAt (w : World Node ρ) (path : String) (f : Failure) : Prop :=
  ∃ existed top, prepare (.local root) path w.files = (.ok existed, top) ∧
    (existed = true → overwrite = true) ∧
      unwritable? (provider prompt targets path w.rest).1 = some f

/-- A target that was found, that can be resolved and whose answer can be written is written or
fails. -/
theorem writeTarget_local (w : World Node ρ) {path : String} (existed : Bool)
    (h : ∀ f, ¬ Unresolvable root w.files path f)
    (hwritable : unwritable? (provider prompt targets path w.rest).1 = none) :
    ∃ fate w', writeTarget (.local root) provider prompt targets existed path w =
      (.ok fate, w') := by
  rcases hp : provider prompt targets path w.rest with ⟨reply, r⟩
  rw [hp] at hwritable
  have hend := writeFileIn_ending root path (contentBytes prompt path reply) w.files
  rcases hw : writeFileIn root path (contentBytes prompt path reply) w.files with ⟨answer, top⟩
  rw [hw] at hend
  have hcalled : (FileSystem.local root).writeFile path (contentBytes prompt path reply) w.files =
      (answer, top) := hw
  cases hend with
  | unresolved f hf => exact absurd hf (h f)
  | refused reason _ =>
    exact ⟨_, _, (writeTarget_of_error hp hwritable hcalled).trans (recordFailure_apply rfl)⟩
  | done u _ => exact ⟨_, _, writeTarget_of_ok hp hwritable hcalled⟩

/-- One target ends the run just when it stops or halts it. -/
theorem generateOne_error_iff {path : String} {f : Failure} (w : World Node ρ) :
    (generateOne (.local root) provider prompt targets overwrite path w).1 = .error f ↔
      Stops root w.files path f ∨ HaltsAt root provider prompt targets overwrite w path f := by
  rcases prepare_local root path w.files with ⟨f₀, top, hstops, hnone, hp⟩ |
    ⟨hno, ⟨place, reason, top, hp⟩ | ⟨existed, top, hp, hres⟩⟩
  · rw [generateOne_of_error hp, recordFailure_of_none hnone]
    constructor
    · rintro ⟨⟩
      exact Or.inl hstops
    · rintro (hstops' | ⟨existed, top', hp', -⟩)
      · rw [hstops.unique hstops']
      · rw [hp] at hp'
        cases hp'
  · rw [generateOne_of_error hp, recordFailure_apply rfl]
    constructor
    · rintro ⟨⟩
    · rintro (hstops | ⟨existed, top', hp', -⟩)
      · exact absurd hstops (hno f)
      · rw [hp] at hp'
        cases hp'
  · by_cases may : existed = true → overwrite = true
    · rw [generateOne_of_may hp may]
      cases hanswer : unwritable? (provider prompt targets path w.rest).1 with
      | none =>
        obtain ⟨fate, w', hw⟩ := writeTarget_local root provider prompt targets ⟨top, w.rest⟩
          existed hres hanswer
        rw [hw]
        constructor
        · rintro ⟨⟩
        · rintro (hstops | ⟨existed', top', -, -, hsome⟩)
          · exact absurd hstops (hno f)
          · rw [hanswer] at hsome
            cases hsome
      | some f₀ =>
        rw [writeTarget_of_unwritable rfl hanswer]
        constructor
        · rintro ⟨⟩
          exact Or.inr ⟨existed, top, hp, may, hanswer⟩
        · rintro (hstops | ⟨existed', top', -, -, hsome⟩)
          · exact absurd hstops (hno f)
          · rw [hanswer] at hsome
            cases hsome
            rfl
    · obtain ⟨rfl, rfl⟩ := kept_of_not_may may
      rw [generateOne_of_exists hp]
      constructor
      · rintro ⟨⟩
      · rintro (hstops | ⟨existed', top', hp', hmay, -⟩)
        · exact absurd hstops (hno f)
        · rw [hp] at hp'
          cases hp'
          cases hmay rfl

/-- The targets one after the other: the run ends early at the first one that stops or halts it. -/
theorem generateFrom_error_iff {f : Failure} (paths : List String) (done : Nat)
    (w : World Node ρ) :
    (generateFrom (.local root) provider progress prompt targets overwrite done paths w).1 =
        .error f ↔
      ∃ front path back fates w', paths = front ++ path :: back ∧
        generateFrom (.local root) provider progress prompt targets overwrite done front w =
          (.ok fates, w') ∧
        (Stops root w'.files path f ∨
          HaltsAt root provider prompt targets overwrite w' path f) := by
  induction paths generalizing done w with
  | nil =>
    constructor
    · intro h
      cases h
    · rintro ⟨front, path, back, fates, w', he, -⟩
      cases front <;> cases he
  | cons path paths ih =>
    have hiff : _ ↔ Stops root w.files path f ∨
        HaltsAt root provider prompt targets overwrite w path f :=
      generateOne_error_iff root provider prompt targets overwrite w
    rcases hone : generateOne (.local root) provider prompt targets overwrite path w with
      ⟨f₀ | fate, w₁⟩ <;> rw [hone] at hiff
    · rw [Except.error.injEq] at hiff
      rw [exists_front_cons_iff, generateFrom_of_error hone, Except.error.injEq, hiff]
      constructor
      · exact fun hends => Or.inl ⟨[], w, rfl, hends⟩
      · rintro (⟨fates, w', hnil, hends⟩ | ⟨front, path', back, fates, w', -, hfront, -⟩)
        · cases hnil
          exact hends
        · rw [generateFrom_of_error hone] at hfront
          cases hfront
    · rw [exists_front_cons_iff, generateFrom_cons_eq_error_iff hone, ih]
      constructor
      · rintro ⟨front, path', back, fates, w', he, hfront, hends⟩
        exact Or.inr ⟨front, path', back, (path, fate) :: fates, w', he,
          (generateFrom_cons_eq_ok_iff hone).2 ⟨fates, rfl, hfront⟩, hends⟩
      · rintro (⟨fates, w', hnil, hends⟩ | ⟨front, path', back, fates, w', he, hfront, hends⟩)
        · cases hnil
          cases hiff.2 hends
        · obtain ⟨others, -, hothers⟩ := (generateFrom_cons_eq_ok_iff hone).1 hfront
          exact ⟨front, path', back, others, w', he, hothers, hends⟩

end

end Scaffold.Generation
