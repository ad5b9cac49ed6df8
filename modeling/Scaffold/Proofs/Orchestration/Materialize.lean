import Scaffold.Orchestration.Materialize
import Scaffold.Proofs.Generation.Local

/-!
# Passes over a workspace

In a workspace, making the items of a plan ends early at an item whose path, or whose directory,
cannot be resolved (`ItemStops`), as a generation run does. `workspace_passes` says of both when
they end early, and that else each path is reported.
-/

namespace Scaffold.Orchestration
open Scaffold.Workspace Scaffold.Generation

/-- All paths that are reported. -/
def Made.all (made : Made) : List String := made.created ++ made.failed.map FailedPath.path

/-- The item stops a pass that finds this tree, and what it stops with. -/
def ItemStops (root : Location) (top : Node) (item : Plan.Item) (f : Failure) : Prop :=
  match item.kind with
  | .directory => Unresolvable root top item.path f
  | .file => Stops root top item.path f

/-! ### One item -/

section

variable {root : Location} {top : Node} {item : Plan.Item} {f f' : Failure}

theorem ItemStops.unique (h : ItemStops root top item f) (h' : ItemStops root top item f') :
    f = f' := by
  obtain ⟨path, kind, content⟩ := item
  cases kind with
  | file => exact Stops.unique h h'
  | directory => exact Unresolvable.unique h h'

/-- An item stops a pass with a failure that is none of the library's own. -/
theorem ItemStops.isDomain (h : ItemStops root top item f) : f.isDomain = false := by
  have hone {top : Node} {path : String} (h : Unresolvable root top path f) :
      f.isDomain = false := by
    obtain ⟨-, ⟨-, rfl⟩ | ⟨-, -, rfl⟩⟩ := h <;> rfl
  obtain ⟨path, kind, content⟩ := item
  cases kind with
  | file =>
    obtain hparent | ⟨top', -, hpath⟩ := h
    · exact hone hparent
    · exact hone hpath
  | directory => exact hone h

/-- One item: it stops the pass, or it is refused, or it is made. -/
theorem place_local (root : Location) (item : Plan.Item) (top : Node) :
    (∃ f top', ItemStops root top item f ∧ failureReason? f = none ∧
        place (.local root) item top = (.error f, top')) ∨
      (∀ f, ¬ ItemStops root top item f) ∧
        ((∃ path reason top', place (.local root) item top =
            (.error (.fileSystem path reason), top')) ∨
          ∃ top', place (.local root) item top = (.ok (), top')) := by
  obtain ⟨path, kind, content⟩ := item
  cases kind with
  | directory =>
    have hend := createDirectoryIn_ending root path top
    rcases hd : createDirectoryIn root path top with ⟨r, top'⟩
    rw [hd] at hend
    have hplace : place (.local root) ⟨path, .directory, content⟩ top = (r, top') := hd
    cases hend with
    | unresolved f h => exact Or.inl ⟨f, top', h, failureReason?_of_unresolvable h, hplace⟩
    | refused reason h => exact Or.inr ⟨h, Or.inl ⟨path, reason, top', hplace⟩⟩
    | done u h => exact Or.inr ⟨h, Or.inr ⟨top', hplace⟩⟩
  | file =>
    rcases prepare_local root path top with ⟨f, top', hstops, hnone, hp⟩ |
      ⟨hno, ⟨refused, reason, top', hp⟩ | ⟨existed, top', hp, hres⟩⟩
    · refine Or.inl ⟨f, top', hstops, hnone, ?_⟩
      simp only [place, bind, StateT.bind, hp]
      rfl
    · refine Or.inr ⟨hno, Or.inl ⟨refused, reason, top', ?_⟩⟩
      simp only [place, bind, StateT.bind, hp]
      rfl
    · refine Or.inr ⟨hno, ?_⟩
      cases existed with
      | true =>
        refine Or.inr ⟨top', ?_⟩
        simp only [place, bind, StateT.bind, hp]
        rfl
      | false =>
        have hplace : place (.local root) ⟨path, .file, content⟩ top =
            writeFileIn root path (content.getD "").toUTF8 top' := by
          simp only [place, bind, StateT.bind, hp]
          rfl
        have hend := writeFileIn_ending root path (content.getD "").toUTF8 top'
        rcases hw : writeFileIn root path (content.getD "").toUTF8 top' with ⟨r, top₂⟩
        rw [hw] at hend hplace
        cases hend with
        | unresolved f h => exact absurd h (hres f)
        | refused reason _ => exact Or.inl ⟨path, reason, top₂, hplace⟩
        | done u _ => exact Or.inr ⟨top₂, hplace⟩

end

/-! ### The items of a plan -/

section

variable {τ ρ : Type} [Log.Journal ρ] {fs : FileSystem τ} {item : Plan.Item} {w : World τ ρ}
  {top : τ}

/-- An item that is made, and then the others. -/
theorem materialize_of_made (h : place fs item w.files = (.ok (), top)) (items : List Plan.Item) :
    materialize fs (item :: items) w =
      let r := materialize fs items ⟨top, w.rest⟩
      (r.1.map (Made.addCreated item.path), r.2) := by
  simp only [materialize, bind, StateT.bind, World.onFiles, h]
  rfl

/-- An item that the file system refuses is reported, and then come the others. -/
theorem materialize_of_refused {path reason : String}
    (h : place fs item w.files = (.error (.fileSystem path reason), top))
    (items : List Plan.Item) :
    materialize fs (item :: items) w =
      let r := materialize fs items ⟨top, Log.Journal.add ⟨.error, "orchestrator",
        s!"Failed to create {item.path}: {reason}"⟩ w.rest⟩
      (r.1.map (Made.addFailed item.path reason), r.2) := by
  simp only [materialize, bind, StateT.bind, World.onFiles, h]
  rfl

/-- Only a failure with a path and a reason is caught. -/
theorem materialize_of_failure {f : Failure} (h : place fs item w.files = (.error f, top))
    (hf : ∀ path reason, f ≠ .fileSystem path reason) (items : List Plan.Item) :
    materialize fs (item :: items) w = (.error f, ⟨top, w.rest⟩) := by
  simp only [materialize, bind, StateT.bind, World.onFiles, h]
  rfl

/-- A pass that comes to its end reports its first item, as made or as refused, and goes on with the
others in what that leaves. -/
theorem materialize_cons_eq_ok {items : List Plan.Item} {made : Made} {w' : World τ ρ}
    (h : materialize fs (item :: items) w = (.ok made, w')) :
    ∃ (w₁ : World τ ρ) (others : Made), w₁.files = (place fs item w.files).2 ∧
      materialize fs items w₁ = (.ok others, w') ∧
      ((place fs item w.files).1 = .ok () ∧ made = others.addCreated item.path ∨
        ∃ reason, made = others.addFailed item.path reason) ∧
      ∀ front made₁ w₂, materialize fs front w₁ = (.ok made₁, w₂) →
        ∃ made₂, materialize fs (item :: front) w = (.ok made₂, w₂) := by
  -- what is reported of the item goes in front of what becomes of the others
  have hfront : ∀ {w₁ : World τ ρ} {add : Made → Made},
      materialize fs (item :: items) w =
        ((materialize fs items w₁).1.map add, (materialize fs items w₁).2) →
      ∃ others, materialize fs items w₁ = (.ok others, w') ∧ add others = made := by
    intro w₁ add he
    rw [he] at h
    rcases hr : materialize fs items w₁ with ⟨f | others, w₂⟩ <;> rw [hr] at h <;> cases h
    exact ⟨others, rfl, rfl⟩
  rcases hp : place fs item w.files with ⟨f | ⟨⟩, top⟩
  · by_cases hf : ∃ path reason, f = .fileSystem path reason
    · obtain ⟨path, reason, rfl⟩ := hf
      have hone := materialize_of_refused hp
      obtain ⟨others, hothers, rfl⟩ := hfront (hone items)
      refine ⟨_, others, rfl, hothers, Or.inr ⟨reason, rfl⟩, fun front made w₂ hmade => ?_⟩
      exact ⟨made.addFailed item.path reason, by rw [hone, hmade]; rfl⟩
    · have hother : ∀ path reason, f ≠ .fileSystem path reason :=
        fun path reason he => hf ⟨path, reason, he⟩
      rw [materialize_of_failure hp hother] at h
      cases h
  · have hone := materialize_of_made hp
    obtain ⟨others, hothers, rfl⟩ := hfront (hone items)
    refine ⟨_, others, rfl, hothers, Or.inl ⟨rfl, rfl⟩, fun front made w₂ hmade => ?_⟩
    exact ⟨made.addCreated item.path, by rw [hone, hmade]; rfl⟩

/-- The items that are made, and those that fail, come in the order of the plan. -/
theorem sublist_of_materialize (items : List Plan.Item) {w w' : World τ ρ} {made : Made}
    (h : materialize fs items w = (.ok made, w')) :
    made.created.Sublist (items.map Plan.Item.path) ∧
      (made.failed.map FailedPath.path).Sublist (items.map Plan.Item.path) := by
  induction items generalizing w made with
  | nil =>
    cases h
    exact ⟨.slnil, .slnil⟩
  | cons item items ih =>
    obtain ⟨w₁, others, -, hothers, ⟨-, rfl⟩ | ⟨reason, rfl⟩, -⟩ := materialize_cons_eq_ok h
    · exact ⟨(ih hothers).1.cons_cons _, (ih hothers).2.cons _⟩
    · exact ⟨(ih hothers).1.cons _, (ih hothers).2.cons_cons _⟩

/-- A pass that comes to its end reports each item. -/
theorem perm_of_materialize (items : List Plan.Item) {w w' : World τ ρ} {made : Made}
    (h : materialize fs items w = (.ok made, w')) :
    List.Perm made.all (items.map Plan.Item.path) := by
  induction items generalizing w made with
  | nil =>
    cases h
    exact .nil
  | cons item items ih =>
    obtain ⟨w₁, others, -, hothers, ⟨-, rfl⟩ | ⟨reason, rfl⟩, -⟩ := materialize_cons_eq_ok h
    · exact (ih hothers).cons item.path
    · exact List.perm_middle.trans ((ih hothers).cons item.path)

end

section

variable {ρ : Type} [Log.Journal ρ] {root : Location}

/-- The first item of a plan: it stops the pass, or it is reported and the pass goes on. -/
theorem materialize_local (root : Location) (item : Plan.Item) (w : World Node ρ) :
    (∃ f w', ItemStops root w.files item f ∧
        ∀ items, materialize (.local root) (item :: items) w = (.error f, w')) ∨
      (∀ f, ¬ ItemStops root w.files item f) ∧ ∃ (report : Made → Made) (w₁ : World Node ρ),
        ∀ items, materialize (.local root) (item :: items) w =
          ((materialize (.local root) items w₁).1.map report,
            (materialize (.local root) items w₁).2) := by
  rcases place_local root item w.files with ⟨f, top, hstops, hnone, hp⟩ |
    ⟨hno, ⟨path, reason, top, hp⟩ | ⟨top, hp⟩⟩
  · refine Or.inl ⟨f, ⟨top, w.rest⟩, hstops, fun items => ?_⟩
    have hother : ∀ path reason, f ≠ .fileSystem path reason := by
      rintro path reason rfl
      cases hnone
    exact materialize_of_failure hp hother items
  · exact Or.inr ⟨hno, Made.addFailed item.path reason, ⟨top, Log.Journal.add ⟨.error,
      "orchestrator", s!"Failed to create {item.path}: {reason}"⟩ w.rest⟩,
      materialize_of_refused hp⟩
  · exact Or.inr ⟨hno, Made.addCreated item.path, ⟨top, w.rest⟩, materialize_of_made hp⟩

/-- The items one after the other: the pass ends early at the first one that stops it. -/
theorem materialize_error_iff {f : Failure} (items : List Plan.Item) (w : World Node ρ) :
    (materialize (.local root) items w).1 = .error f ↔
      ∃ front item back made w', items = front ++ item :: back ∧
        materialize (.local root) front w = (.ok made, w') ∧ ItemStops root w'.files item f := by
  induction items generalizing w with
  | nil =>
    constructor
    · intro h
      cases h
    · rintro ⟨front, item, back, made, w', he, -⟩
      cases front <;> cases he
  | cons item items ih =>
    rcases materialize_local root item w with ⟨f₀, w₁, hstops, hone⟩ | ⟨hno, report, w₁, hone⟩
    · rw [exists_front_cons_iff, hone]
      constructor
      · intro h
        cases h
        exact Or.inl ⟨.empty, w, rfl, hstops⟩
      · rintro (⟨made, w', hnil, hstops'⟩ | ⟨front, item', back, made, w', -, hfront, -⟩)
        · cases hnil
          rw [hstops.unique hstops']
        · rw [hone] at hfront
          cases hfront
    · have hmap : ∀ r : Except Failure Made, r.map report = .error f ↔ r = .error f := by
        intro r
        cases r <;> simp [Except.map]
      rw [exists_front_cons_iff, hone, hmap, ih]
      constructor
      · rintro ⟨front, item', back, made, w', he, hfront, hstops⟩
        refine Or.inr ⟨front, item', back, report made, w', he, ?_, hstops⟩
        rw [hone, hfront]
        rfl
      · rintro (⟨made, w', hnil, hstops⟩ | ⟨front, item', back, made, w', he, hfront, hstops⟩)
        · cases hnil
          exact absurd hstops (hno f)
        · rw [hone] at hfront
          rcases hr : materialize (.local root) front w₁ with ⟨f' | made', w₂⟩ <;>
            rw [hr] at hfront <;> cases hfront
          exact ⟨front, item', back, made', _, he, hr, hstops⟩

end

/-- Passes over a workspace. A generation run ends early just when one of its targets, in the tree
that the targets before it leave, has a directory that cannot be resolved, or has one and cannot be
resolved itself, or when it may be written and its provider answers with what no file can be written
with; else each target is in one list of the outcome. Making the items of a plan ends early just
when an item cannot be resolved. -/
theorem workspace_passes {ρ : Type} [Log.Journal ρ] (root : Location)
    (provider : ContentProvider ρ) (progress : Option (Progress ρ)) (prompt : String)
    (targets : List String) (overwrite : Bool) (items : List Plan.Item) (w : World Node ρ) :
    (∀ f, (generate (.local root) provider progress prompt targets overwrite w).1 = .error f ↔
      ∃ front path back fates w', targets = front ++ path :: back ∧
        generateFrom (.local root) provider progress prompt targets overwrite 0 front w =
          (.ok fates, w') ∧
        (Stops root w'.files path f ∨
          HaltsAt root provider prompt targets overwrite w' path f)) ∧
    (∀ outcome, (generate (.local root) provider progress prompt targets overwrite w).1 =
      .ok outcome → List.Perm outcome.all targets) ∧
    (∀ f, (materialize (.local root) items w).1 = .error f ↔
      ∃ front item back made w', items = front ++ item :: back ∧
        materialize (.local root) front w = (.ok made, w') ∧ ItemStops root w'.files item f) ∧
    ∀ made, (materialize (.local root) items w).1 = .ok made →
      List.Perm made.all (items.map Plan.Item.path) := by
  refine ⟨fun f => ?_, fun outcome h => ?_, fun f => materialize_error_iff items w,
    fun made h => ?_⟩
  · rw [generate_eq_error_iff, generateFrom_error_iff]
  · rcases hr : generateFrom (.local root) provider progress prompt targets overwrite 0 targets w
      with ⟨f' | fates, w'⟩
    · rw [generate_of_error hr] at h
      cases h
    · rw [generate_of_ok hr] at h
      cases h
      rw [← map_fst_of_generateFrom hr]
      exact perm_ofFates fates
  · rcases hr : materialize (.local root) items w with ⟨r, w'⟩
    rw [hr] at h
    cases h
    exact perm_of_materialize items hr

/-- A path in the spelling of a plan that stops a run. -/
example {ρ : Type} [Log.Journal ρ] (provider : ContentProvider ρ) (prompt : String) (r : ρ) :
    Plan.normalize "a\x00b" = .ok "a\x00b" ∧
      (generate (.local (.top [])) provider none prompt ["a\x00b", "c"] false
        ⟨Node.empty, r⟩).1 = .error Node.nulFailure := by
  constructor <;> cbv

end Scaffold.Orchestration
