import Scaffold.Cli.Run
import Scaffold.Proofs.Orchestration.Preview

/-!
# Commands that plan

What a command prints is a list of lines (`Prints`). A plan is shown with all its items, whatever
the globs (`prints_showPlan`). It is made with those items that the globs pick, one after the other
(`Attempts`). `plan_dryRun` says of both commands what they do with the same plan, and when the
items that are shown are those that are made.
-/

namespace Scaffold.Cli
open Scaffold.Workspace Scaffold.Orchestration

section

variable {ρ α β : Type} [Log.Terminal ρ] {w w' : Floor ρ}

/-! ### Printing -/

/-- The state with lines printed. -/
def printed (lines : List String) (w : Floor ρ) : Floor ρ :=
  lines.foldl (fun w line =>
    ⟨w.files, Log.Terminal.withConsole ((Log.Terminal.console w.rest).say line) w.rest⟩) w

theorem files_printed (lines : List String) (w : Floor ρ) :
    (printed lines w).files = w.files := by
  induction lines generalizing w with
  | nil => rfl
  | cons line lines ih => exact ih _

/-- The step prints lines, and that is all. -/
def Prints (x : Job ρ Unit) (lines : List String) : Prop :=
  ∀ w, x w = (.ok (), printed lines w)

variable {x : Job ρ Unit} {y : Unit → Job ρ Unit} {xs ys : List String}

theorem prints_say (line : String) : Prints (say line : Job ρ Unit) [line] := fun _ => rfl

theorem Prints.bind (hx : Prints x xs) (hy : Prints (y ()) ys) : Prints (x >>= y) (xs ++ ys) := by
  intro w
  have happend : printed (xs ++ ys) w = printed ys (printed xs w) := List.foldl_append
  rw [happend, ← hy]
  simp only [Bind.bind, ExceptT.bind, ExceptT.mk, StateT.bind, hx w, ExceptT.bindCont]

theorem prints_if {c : Prop} [Decidable c] (hx : Prints x xs) :
    Prints (if c then x else pure ()) (if c then xs else []) := by
  split
  · exact hx
  · exact fun _ => rfl

/-- Lines that are printed on a condition, before others. -/
theorem Prints.bind_if {c : Prop} [Decidable c] (hx : Prints x xs) (hy : Prints (y ()) ys) :
    Prints (if c then x >>= y else y ()) ((if c then xs else []) ++ ys) := by
  split
  · exact hx.bind hy
  · exact hy

theorem prints_forM (line : α → String) (l : List α) :
    Prints (l.forM fun a => say (line a) : Job ρ Unit) (l.map line) := by
  induction l with
  | nil => exact fun _ => rfl
  | cons a l ih => exact (prints_say (line a)).bind ih

/-- The lines of a plan that is shown. -/
def shown (plan : PlanOutcome) : List String :=
  (if plan.fallback then ["Provider unavailable; showing the fallback plan"] else []) ++
    ((if plan.items.isEmpty then ["The plan is empty"] else []) ++ plan.items.map planLine)

/-- The lines of a plan that was made. -/
def told (plan : PlanOutcome) (made : Made) : List String :=
  (if plan.fallback then ["Provider unavailable; used the fallback plan"] else []) ++
    (made.created.map (fun path => s!"created {path}") ++ (made.failed.map failedLine ++
      if made.created.isEmpty && made.failed.isEmpty then ["Nothing created"] else []))

theorem prints_showPlan (plan : PlanOutcome) :
    Prints (showPlan plan : Job ρ Unit) (shown plan) := by
  unfold showPlan
  exact (prints_say _).bind_if ((prints_say _).bind_if (prints_forM planLine plan.items))

theorem prints_outcome (plan : PlanOutcome) (made : Made) :
    Prints (do
      sayFallback plan
      made.created.forM fun path => say s!"created {path}"
      made.failed.forM fun f => say (failedLine f)
      if made.created.isEmpty && made.failed.isEmpty then say "Nothing created" : Job ρ Unit)
      (told plan made) := by
  have hfallback : Prints (sayFallback plan : Job ρ Unit) _ := prints_if (prints_say _)
  have hcreated := prints_forM (ρ := ρ) (fun path => s!"created {path}") made.created
  have hfailed := prints_forM (ρ := ρ) failedLine made.failed
  exact hfallback.bind (hcreated.bind (hfailed.bind (prints_if (prints_say _))))

/-! ### Tasks of a command -/

variable {t : StateM (Floor ρ) (Except Failure α)} {k : α → Job ρ β} {a : α} {f : Failure}

omit [Log.Terminal ρ] in
theorem task_bind_of_ok (h : t w = (.ok a, w')) : (task t >>= k : Job ρ β) w = k a w' := by
  simp only [task, bind, ExceptT.bind, ExceptT.mk, StateT.bind, Functor.map, StateT.map, h]
  rfl

omit [Log.Terminal ρ] in
theorem task_bind_of_error (h : t w = (.error f, w')) :
    (task t >>= k : Job ρ β) w = (.error (.failure f), w') := by
  simp only [task, bind, ExceptT.bind, ExceptT.mk, StateT.bind, Functor.map, StateT.map, h]
  rfl

/-! ### Showing a plan, and making it -/

/-- How a command ends that makes items of a plan in a root: each of them is reported, as created or
as failed, in order, or one of them stops the command. -/
inductive Attempts (root : Location) (plan : PlanOutcome) (items : List Plan.Item) (w : Floor ρ) :
    Except Refusal Unit × Floor ρ → Prop
  | done {made w'} : materialize (.local root) items w = (.ok made, w') →
      List.Perm made.all (items.map Plan.Item.path) →
      made.created.Sublist (items.map Plan.Item.path) →
      (made.failed.map Generation.FailedPath.path).Sublist (items.map Plan.Item.path) →
      Attempts root plan items w (.ok (), printed (told plan made) w')
  | stopped {front item back made w₁ f w'} : items = front ++ item :: back →
      materialize (.local root) front w = (.ok made, w₁) → ItemStops root w₁.files item f →
      materialize (.local root) items w = (.error f, w') →
      Attempts root plan items w (.error (.failure f), w')

variable (s : Setting ρ) (root instructions : String) (only : List String)
  (kinds : Option (List Plan.Kind))

/-- A command that makes a plan attempts what is picked of it. -/
theorem makePaths_attempts {plan : PlanOutcome}
    (h : (s.bench none).preview root instructions kinds w = (.ok plan, w')) :
    ∃ place w₁, w.files.resolve (s.here.join (Location.parse root)).names = .ok place ∧
      w₁.files = w'.files ∧
      Attempts place plan (picked only plan.items) w₁
        (s.makePaths root instructions only kinds w) := by
  obtain ⟨place, w₁, hplace, hfiles, hmake⟩ := makePaths_of_ok (Plan.selectMatching only) h
  rw [filter_selectMatching] at hmake
  have hlocal : (s.bench none).fileSystem place = .local place := rfl
  rw [hlocal] at hmake
  refine ⟨place, w₁, hplace, hfiles, ?_⟩
  unfold Setting.makePaths
  rcases hr : materialize (.local place) (picked only plan.items) w₁ with ⟨f | made, w₂⟩ <;>
    rw [hr] at hmake
  · rw [task_bind_of_error hmake]
    have hfails : (materialize (.local place) (picked only plan.items) w₁).1 = .error f := by
      rw [hr]
    obtain ⟨front, item, back, made, w₃, hitems, hfront, hstops⟩ :=
      (materialize_error_iff _ _).1 hfails
    exact .stopped hitems hfront hstops hr
  · rw [task_bind_of_ok hmake]
    have htold := prints_outcome (ρ := ρ) plan made w₂
    obtain ⟨hcreated, hfailed⟩ := sublist_of_materialize _ hr
    have hdone : Attempts place plan (picked only plan.items) w₁
        (.ok (), printed (told plan made) w₂) :=
      .done hr (perm_of_materialize _ hr) hcreated hfailed
    rw [← htold] at hdone
    exact hdone

/-- A plan that is shown with globs, and made. Neither command goes on without a plan. To show it
changes no file, and prints all its items; to make it attempts those that the globs pick. These are
the same items just when there is no glob, or one for each item of the plan. -/
theorem plan_dryRun (kinds : List Plan.Kind) (w : Floor ρ) :
    let wanted := if kinds.isEmpty then none else some kinds
    let dry := s.plan root instructions only kinds true w
    let real := s.plan root instructions only kinds false w
    dry.2.files = w.files ∧
      ((∃ f w', (s.bench none).preview root instructions wanted w = (.error f, w') ∧
          dry = (.error (.failure f), w') ∧ real = (.error (.failure f), w')) ∨
        ∃ plan w', (s.bench none).preview root instructions wanted w = (.ok plan, w') ∧
          dry = (.ok (), printed (shown plan) w') ∧
          (∃ place w₁, w.files.resolve (s.here.join (Location.parse root)).names = .ok place ∧
            w₁.files = w.files ∧ Attempts place plan (picked only plan.items) w₁ real) ∧
          ((picked only plan.items).map Plan.Item.path = plan.items.map Plan.Item.path ↔
            only = [] ∨
              ∀ item ∈ plan.items, ∃ glob ∈ only, Glob.matchesText glob item.path = true)) := by
  intro wanted dry real
  have hfiles := files_preview root instructions wanted (b := s.bench none) rfl w
  rcases hpreview : (s.bench none).preview root instructions wanted w with ⟨f | plan, w'⟩ <;>
    rw [hpreview] at hfiles
  · have hdry : dry = (.error (.failure f), w') := task_bind_of_error hpreview
    have hreal : real = (.error (.failure f), w') :=
      task_bind_of_error (makePaths_of_error (Plan.selectMatching only) hpreview)
    rw [hdry]
    exact ⟨hfiles, Or.inl ⟨f, w', rfl, rfl, hreal⟩⟩
  · have hdry : dry = (.ok (), printed (shown plan) w') :=
      (task_bind_of_ok hpreview).trans (prints_showPlan plan w')
    obtain ⟨place, w₁, hplace, hkept, hattempts⟩ :=
      makePaths_attempts s root instructions only wanted hpreview
    rw [hdry, files_printed]
    exact ⟨hfiles, Or.inr ⟨plan, w', rfl, rfl, ⟨place, w₁, hplace, hkept.trans hfiles, hattempts⟩,
      map_path_picked_eq_iff only plan.items⟩⟩

/-- Globs hide nothing of a plan that is shown. -/
example :
    let items := [Plan.Item.of "src" .directory, Plan.Item.of "docs" .directory,
      Plan.Item.of "src/app.py" .file]
    shown { items } = ["directory src/", "directory docs/", "file      src/app.py"] ∧
      (picked ["src/*"] items).map Plan.Item.path = ["src/app.py"] := by decide +kernel

end

end Scaffold.Cli
