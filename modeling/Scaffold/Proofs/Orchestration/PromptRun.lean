import Scaffold.Orchestration.PromptRun
import Scaffold.Proofs.Config.Load
import Scaffold.Proofs.Generation.Failing
import Scaffold.Proofs.Orchestration.Preview
import Scaffold.Proofs.Plan.Item

/-!
# Paths of a prompt's plan, read again

A run of a prompt without given targets makes a plan first (`Bench.draft`), and then reads the paths
that are selected from it as if a person had typed them (`Bench.finish`). No step but this reading
fails with a path (`NotPath`), so such a failure and the targets depend on the selected paths alone
(`runPrompt_targets`).
-/

namespace Scaffold.Orchestration
open Scaffold.Workspace Scaffold.Provider

/-- What is known when the files of a prompt are planned. -/
structure Draft where
  settings : Config.Settings
  fileSystem : FileSystem Node
  prompt : String
  summary : Summary
  plan : PlanOutcome

/-- A failure that is not about a path that a plan cannot hold. -/
def NotPath (f : Failure) : Prop := ∀ path reason, f ≠ .invalidPath path reason

theorem notPath_of_foreign {f : Failure} (h : Config.Foreign f) : NotPath f := by
  rintro path reason rfl
  cases h

theorem root_notPath {ρ : Type} (b : Bench ρ) (path : String) :
    StepFailsOnly NotPath (b.root path) :=
  fun _ => (Config.resolve_failsOnly _).mono fun _ => notPath_of_foreign

section

variable {ρ : Type} [Log.Journal ρ]

/-- The steps of a run up to its plan. -/
def Bench.draft (b : Bench ρ) (t : PromptTask) : Task ρ Draft := do
  let root ← b.root t.path
  let settings ← b.settings root
  let fs := b.fileSystem root
  let prompt ← b.prompt settings t.template t.picks t.values
  let summary ← summarizeFor fs settings
  let plan ← b.planFiles settings prompt summary
  return { settings, fileSystem := fs, prompt, summary, plan }

/-- The steps of a run from its plan on. -/
def Bench.finish (b : Bench ρ) (t : PromptTask) (d : Draft) : Task ρ PromptOutcome := do
  if d.plan.items.isEmpty then
    report .info "No files were proposed for this prompt"
    return { prompt := d.prompt, plan := d.plan }
  else
    let targets ← give (Plan.dedupe (t.select d.plan.items))
    let result ← b.generate d.settings d.fileSystem d.summary d.prompt targets t.overwrite
    return { prompt := d.prompt, plan := d.plan, targets, result }

theorem runPrompt_eq (b : Bench ρ) {t : PromptTask} (ht : t.targets = none) :
    b.runPrompt t = b.draft t >>= b.finish t := by
  simp only [Bench.runPrompt, Bench.draft, Bench.finish, ht, bind_assoc, pure_bind]

/-! ### Failures of the steps -/

variable (b : Bench ρ) (settings : Config.Settings) (summary : Summary) (prompt : String)

theorem readSettings_notPath (root : Location) : StepFailsOnly NotPath (b.readSettings root) := by
  intro w
  have hload := (Config.load_failsOnly b.loader b.here root w.files).mono fun _ =>
    notPath_of_foreign
  have hget : (get : Task ρ _) w = (.ok w, w) := rfl
  unfold Bench.readSettings
  rw [bind_of_ok hget]
  cases h : Config.load b.loader b.here root w.files with
  | ok settings => exact failsOnly_ok settings
  | error f =>
    rw [h] at hload
    cases f with
    | config fault => exact (stepFailsOnly_pure _).reported _ _ w
    | _ => exact hload

theorem settings_notPath (root : Location) : StepFailsOnly NotPath (b.settings root) :=
  (readSettings_notPath b root).bind fun _ =>
    (stepFailsOnly_onDesk _).bind fun _ => stepFailsOnly_pure _

theorem prompt_notPath (template : String) (picks : Nat → Template.Selection)
    (values : Template.Values) : StepFailsOnly NotPath (b.prompt settings template picks values) :=
  (stepFailsOnly_onDesk _).bind fun _ => stepFailsOnly_pure _

theorem summarizeFor_notPath {fs : FileSystem Node} (hfs : Generation.FailsWith NotPath fs) :
    StepFailsOnly NotPath (summarizeFor fs settings : Task ρ Summary) :=
  StepFailsOnly.bind (fun w => Generation.summarize_failsOnly hfs _ _ w) fun _ =>
    (stepFailsOnly_pure _).reported _ _

/-- A failed request for a plan is masked when it is about a path. -/
theorem requestPlan_notPath (kinds : List Plan.Kind) :
    StepFailsOnly NotPath (b.requestPlan settings prompt summary kinds) := by
  intro w f hf
  rw [requestPlan_fst, planned_eq_error_iff] at hf
  rintro path reason rfl
  cases hf.2

theorem planFiles_notPath : StepFailsOnly NotPath (b.planFiles settings prompt summary) :=
  ((requestPlan_notPath b settings summary prompt _).bind fun _ =>
    stepFailsOnly_pure _).reported _ _

theorem contentProvider_notPath :
    StepFailsOnly NotPath (b.contentProvider settings summary) := by
  refine (stepFailsOnly_onDesk _).bind fun found => ?_
  cases found with
  | ok runner => exact stepFailsOnly_pure _
  | error f =>
    cases hf : f.isDomain with
    | true =>
      simp only [hf, if_true]
      exact (stepFailsOnly_pure _).reported _ _
    | false =>
      simp only [hf, Bool.false_eq_true, if_false]
      exact fun _ => failsOnly_error.2 (notPath_of_foreign hf)

theorem generate_notPath {fs : FileSystem Node} (hfs : Generation.FailsWith NotPath fs)
    (targets : List String) (overwrite : Option Bool) :
    StepFailsOnly NotPath (b.generate settings fs summary prompt targets overwrite) :=
  (contentProvider_notPath b settings summary).bind fun provider w =>
    Generation.generate_failsOnly hfs provider b.deskProgress prompt targets _
      (fun _ _ _ h => by cases h) (fun _ _ _ h => by cases h) w

theorem draft_notPath (hfs : ∀ root, Generation.FailsWith NotPath (b.fileSystem root))
    (t : PromptTask) : StepFailsOnly NotPath (b.draft t) :=
  (root_notPath b t.path).bind fun root =>
    (settings_notPath b root).bind fun settings =>
      (prompt_notPath b settings t.template t.picks t.values).bind fun prompt =>
        (summarizeFor_notPath settings (hfs root)).bind fun summary =>
          (planFiles_notPath b settings summary prompt).bind fun _ => stepFailsOnly_pure _

/-! ### The plan -/

/-- A plan is that of some value: of the one that was read, or of the fallback plan. -/
theorem requestPlan_items (kinds : List Plan.Kind) :
    StepEnsures (fun o => ∃ v, o.items = Plan.restrict kinds (Plan.build v))
      (b.requestPlan settings prompt summary kinds) := by
  intro w o ho
  rw [requestPlan_fst] at ho
  rcases obtained_or_missed (b.planAnswer settings prompt summary kinds w) with ⟨v, hv⟩ | ⟨f, hf⟩
  · rw [planned_of_obtained hv] at ho
    cases ho
    exact ⟨v, rfl⟩
  · rw [planned_of_missed hf] at ho
    split at ho <;> cases ho
    exact ⟨Fallback.plan, rfl⟩

theorem planFiles_items : StepEnsures (fun o => ∃ v, o.items = Plan.restrict [.file] (Plan.build v))
    (b.planFiles settings prompt summary) := by
  refine .of_last fun _ => (requestPlan_items b settings summary prompt _).bind ?_
  rintro o ⟨v, hv⟩
  refine (gives_pure _).ensures ⟨v, ?_⟩
  rw [hv, Plan.restrict_both]

theorem draft_ensures (t : PromptTask) : StepEnsures
    (fun d => (∃ root, d.fileSystem = b.fileSystem root) ∧
      ∃ v, d.plan.items = Plan.restrict [.file] (Plan.build v)) (b.draft t) :=
  .of_last fun root => .of_last fun settings => .of_last fun prompt => .of_last fun summary =>
    (planFiles_items b settings summary prompt).bind fun _ h =>
      (gives_pure _).ensures ⟨⟨root, rfl⟩, h⟩

/-! ### The targets -/

section

variable {b} {t : PromptTask} {d : Draft} {w : Floor ρ} {patterns : List String}
  (hselect : t.select = Plan.selectMatching patterns)

include hselect

theorem select_of_isEmpty (h : d.plan.items.isEmpty = true) : t.select d.plan.items = [] := by
  rw [List.isEmpty_iff.1 h, hselect]
  exact List.sublist_nil.1 (Plan.selectMatching_sublist patterns [])

theorem finish_of_error {f : Failure} (h : Plan.dedupe (t.select d.plan.items) = .error f) :
    b.finish t d w = (.error f, w) := by
  unfold Bench.finish
  cases hempty : d.plan.items.isEmpty with
  | true =>
    -- nothing is selected, and there is nothing to object to
    rw [select_of_isEmpty hselect hempty] at h
    cases h
  | false => exact bind_of_error (congrArg (·, w) h)

/-- Selected paths that are read become the targets. -/
theorem finish_of_ok {targets : List String}
    (h : Plan.dedupe (t.select d.plan.items) = .ok targets)
    (hfs : Generation.FailsWith NotPath d.fileSystem) :
    FailsOnly NotPath (b.finish t d w).1 ∧
      ∀ o, (b.finish t d w).1 = .ok o → o.plan = d.plan ∧ o.targets = targets := by
  unfold Bench.finish
  cases hempty : d.plan.items.isEmpty with
  | true =>
    rw [select_of_isEmpty hselect hempty] at h
    cases h
    refine ⟨(stepFailsOnly_pure _).reported _ _ w, ?_⟩
    exact StepEnsures.of_last (fun _ => (gives_pure _).ensures ⟨rfl, rfl⟩) w
  | false =>
    have hread : give (Plan.dedupe (t.select d.plan.items)) w = (.ok targets, w) := by
      rw [give_apply, h]
    simp only [Bool.false_eq_true, if_false]
    rw [bind_of_ok hread]
    constructor
    · exact StepFailsOnly.bind (generate_notPath b d.settings d.summary d.prompt hfs targets _)
        (fun _ => stepFailsOnly_pure _) w
    · exact StepEnsures.of_last (fun _ => (gives_pure _).ensures ⟨rfl, rfl⟩) w

variable (htargets : t.targets = none)

/-- The selected paths are read again as they are just when each of them reads back. -/
theorem dedupe_select_iff {w' : Floor ρ} (hd : b.draft t w = (.ok d, w')) :
    Plan.dedupe (t.select d.plan.items) = .ok (t.select d.plan.items) ↔
      ∀ path ∈ t.select d.plan.items, Plan.ReadsBack path := by
  obtain ⟨-, v, hv⟩ := draft_ensures b t w d (congrArg Prod.fst hd)
  refine Plan.dedupe_eq_self_iff_readsBack (v := v) ?_
  rw [hselect, hv]
  exact (Plan.selectMatching_sublist _ _).trans (Plan.paths_restrict_sublist _ _)

variable (hfs : ∀ root, Generation.FailsWith NotPath (b.fileSystem root))

include htargets hfs

/-- A run fails with a path just when the selected paths are not read again. -/
theorem runPrompt_invalidPath_iff {path reason : String} :
    (b.runPrompt t w).1 = .error (.invalidPath path reason) ↔
      ∃ d w', b.draft t w = (.ok d, w') ∧
        Plan.dedupe (t.select d.plan.items) = .error (.invalidPath path reason) := by
  rw [runPrompt_eq b htargets]
  rcases hd : b.draft t w with ⟨f | d, w'⟩
  · -- no step before the plan fails with a path
    have hno := draft_notPath b hfs t w
    rw [hd] at hno
    rw [bind_of_error hd]
    constructor
    · intro h
      cases h
      exact absurd rfl (failsOnly_error.1 hno path reason)
    · rintro ⟨d, w'', he, -⟩
      cases he
  · obtain ⟨⟨root, hroot⟩, -⟩ := draft_ensures b t w d (congrArg Prod.fst hd)
    rw [bind_of_ok hd]
    cases hread : Plan.dedupe (t.select d.plan.items) with
    | error f =>
      rw [finish_of_error hselect hread]
      constructor
      · intro h
        cases h
        exact ⟨d, w', rfl, hread⟩
      · rintro ⟨d', w'', he, h⟩
        cases he
        rw [hread] at h
        cases h
        rfl
    | ok targets =>
      have hno := (finish_of_ok (b := b) (w := w') hselect hread (hroot ▸ hfs root)).1
      constructor
      · exact fun h => absurd rfl (hno _ h path reason)
      · rintro ⟨d', w'', he, h⟩
        cases he
        rw [hread] at h
        cases h

/-- The targets of a run are the selected paths just when each of these reads back. -/
theorem targets_eq_select_iff {o : PromptOutcome} (ho : (b.runPrompt t w).1 = .ok o) :
    o.targets = t.select o.plan.items ↔ ∀ path ∈ t.select o.plan.items, Plan.ReadsBack path := by
  rw [runPrompt_eq b htargets] at ho
  rcases hd : b.draft t w with ⟨f | d, w'⟩
  · rw [bind_of_error hd] at ho
    cases ho
  · obtain ⟨⟨root, hroot⟩, -⟩ := draft_ensures b t w d (congrArg Prod.fst hd)
    rw [bind_of_ok hd] at ho
    cases hread : Plan.dedupe (t.select d.plan.items) with
    | error f =>
      rw [finish_of_error hselect hread] at ho
      cases ho
    | ok targets =>
      obtain ⟨hplan, hnow⟩ :=
        (finish_of_ok (b := b) (w := w') hselect hread (hroot ▸ hfs root)).2 o ho
      rw [hplan, hnow, ← dedupe_select_iff hselect hd, hread, Except.ok.injEq]

end

/-- Reading the paths of a plan again gives these paths just when each of them reads back. A run
that plans its files, and takes all of them or those that match some patterns, fails with a path
just when some selected path is none when it is trimmed, for the first of these; its targets are the
selected paths just when each of them reads back. -/
theorem runPrompt_targets (hfs : ∀ root, Generation.FailsWith NotPath (b.fileSystem root))
    (t : PromptTask) (htargets : t.targets = none) (patterns : List String)
    (hselect : t.select = Plan.selectMatching patterns) (w : Floor ρ) :
    (∀ v, Plan.dedupe (Plan.paths (Plan.build v)) = .ok (Plan.paths (Plan.build v)) ↔
      ∀ path ∈ Plan.paths (Plan.build v), Plan.ReadsBack path) ∧
    (∀ path reason, (b.runPrompt t w).1 = .error (.invalidPath path reason) ↔
      ∃ d w' front raw back, b.draft t w = (.ok d, w') ∧
        t.select d.plan.items = front ++ raw :: back ∧
        (∀ p ∈ front, ∃ q, Plan.typed p = .ok q) ∧
        Plan.typed raw = .error (.invalidPath path reason)) ∧
    (∀ d w', b.draft t w = (.ok d, w') →
      (Plan.dedupe (t.select d.plan.items) = .ok (t.select d.plan.items) ↔
        ∀ path ∈ t.select d.plan.items, Plan.ReadsBack path)) ∧
    ∀ o, (b.runPrompt t w).1 = .ok o →
      (o.targets = t.select o.plan.items ↔
        ∀ path ∈ t.select o.plan.items, Plan.ReadsBack path) :=
  ⟨fun _ => Plan.dedupe_eq_self_iff_readsBack (.refl _),
    fun path reason => by
      simp only [runPrompt_invalidPath_iff hselect htargets hfs, Plan.dedupe_eq_error_iff,
        exists_and_left],
    fun _ _ hd => dedupe_select_iff hselect hd,
    fun _ ho => targets_eq_select_iff hselect htargets hfs ho⟩

end

theorem local_notPath (root : Location) : Generation.FailsWith NotPath (.local root) :=
  Generation.local_failsWith (fun _ _ _ _ h => by cases h) (fun _ _ h => by cases h)
    (fun _ _ _ h => by cases h) root

/-- In a workspace with blank settings, the plan is that of the files in the answer. -/
theorem AlwaysAnswers.draft_eq {ρ : Type} [Log.Journal ρ] {b : Bench ρ} {answer : String}
    (h : AlwaysAnswers b answer) {plan : PlanOutcome}
    (hplan : (planned [.directory, .file] (.ok (.text answer))).toOption = some plan)
    {t : PromptTask} (hpath : t.path = "/w") {w : Floor ρ} (hw : w.files = plainTree) :
    ∃ d r, b.draft t w = (.ok d, ⟨plainTree, r⟩) ∧
      d.plan = { plan with items := Plan.restrict [.file] plan.items } := by
  obtain ⟨settings, r, hsettings, hgeneration⟩ := h.settings_eq hw
  obtain ⟨prompt, r₁, hprompt⟩ : ∃ prompt r₁,
      b.prompt settings t.template t.picks t.values ⟨plainTree, r⟩ =
        (.ok prompt, ⟨plainTree, r₁⟩) := ⟨_, _, rfl⟩
  obtain ⟨summary, r₂, hsummary⟩ := summarizeFor_plain (w := ⟨plainTree, r₁⟩) hgeneration rfl
  obtain ⟨r₃, hreport⟩ := gives_report (ρ := ρ) .info
    s!"Planning files for prompt {Text.quoted (headline prompt)}" ⟨plainTree, r₂⟩
  obtain ⟨r₄, hrequest⟩ := h.requestPlan_eq hplan settings prompt summary ⟨plainTree, r₃⟩
  let files : PlanOutcome := { plan with items := Plan.restrict [.file] plan.items }
  have hfiles : b.planFiles settings prompt summary ⟨plainTree, r₂⟩ =
      (.ok files, ⟨plainTree, r₄⟩) := by
    unfold Bench.planFiles
    rw [bind_of_ok hreport, bind_of_ok hrequest]
    rfl
  refine ⟨⟨settings, .local (.top ["w"]), prompt, summary, files⟩, r₄, ?_, rfl⟩
  unfold Bench.draft
  rw [hpath, bind_of_ok (h.root_eq hw), bind_of_ok hsettings, bind_of_ok hprompt, h.tree,
    bind_of_ok hsummary, bind_of_ok hfiles]
  rfl

/-- An answer that plans two files, of which one has a blank for a path. -/
def blankAnswer : String := "\x7b\"files\": [\" \", \"ok.txt\"]\x7d"

theorem AlwaysAnswers.draft_blank {ρ : Type} [Log.Journal ρ] {b : Bench ρ}
    (h : AlwaysAnswers b blankAnswer) {t : PromptTask} (hpath : t.path = "/w") {w : Floor ρ}
    (hw : w.files = plainTree) :
    ∃ d r, b.draft t w = (.ok d, ⟨plainTree, r⟩) ∧ Plan.paths d.plan.items = [" ", "ok.txt"] := by
  let plan : PlanOutcome := { items := [Plan.Item.of " " .file, Plan.Item.of "ok.txt" .file] }
  have hplan : (planned [.directory, .file] (.ok (.text blankAnswer))).toOption = some plan := by
    decide +kernel
  obtain ⟨d, r, hdraft, hd⟩ := h.draft_eq hplan hpath hw
  exact ⟨d, r, hdraft, by rw [hd]; rfl⟩

/-- A blank is the path of a file in the plan, and no path for a person. -/
theorem answeringBench_targets :
    let b := answeringBench blankAnswer
    let t : PromptTask := { path := "/w", template := "an app" }
    let w : Floor (List Log.Record) := ⟨plainTree, .empty, []⟩
    let v : Json := .object [("files", .array [.text " ", .text "ok.txt"])]
    ((∀ root, Generation.FailsWith NotPath (b.fileSystem root)) ∧ t.targets = none ∧
      t.select = Plan.selectMatching []) ∧
    Plan.paths (Plan.build v) = [" ", "ok.txt"] ∧
    Plan.dedupe (Plan.paths (Plan.build v)) ≠ .ok (Plan.paths (Plan.build v)) ∧
    (b.runPrompt t w).1 = .error (.invalidPath "" "Path is empty") := by
  intro b t w v
  obtain ⟨hreads, hfails, -, -⟩ := runPrompt_targets b local_notPath t rfl [] rfl w
  have hpaths : Plan.paths (Plan.build v) = [" ", "ok.txt"] := rfl
  refine ⟨⟨local_notPath, rfl, rfl⟩, hpaths, fun h => ?_, ?_⟩
  · have hback := (hreads v).1 h " " (hpaths ▸ List.mem_cons_self)
    exact absurd hback (by decide +kernel)
  · obtain ⟨d, r, hdraft, hd⟩ :=
      (alwaysAnswers_answeringBench blankAnswer).draft_blank (t := t) rfl (w := w) rfl
    exact (hfails "" "Path is empty").2 ⟨d, _, [], " ", ["ok.txt"], hdraft, hd, by simp, rfl⟩

end Scaffold.Orchestration
