import Scaffold.Proofs.Generation.Again
import Scaffold.Proofs.Generation.Unwrapped
import Scaffold.Proofs.Orchestration.PromptRun
import Scaffold.Proofs.Orchestration.Requests

/-!
# A run of a prompt is consistent

The stages before generation leave the files alone and ask for AI inputs and a plan only (`Opens`).
All paths are read before generation begins, and nothing fails with a path from then on, so a run
that fails with a path has neither changed a file nor asked for content (`Harmless`). A run that
comes to its end has each target in one list (`PromptOutcome.Consistent`); `runPrompt_consistent`
says all of this of every run.
-/

namespace Scaffold.Orchestration
open Scaffold.Workspace Scaffold.Provider Scaffold.Generation

section

variable {ρ α β : Type} {p q : Purpose → Prop} {x : Task ρ α} {k : α → Task ρ β}

theorem Asks.next {made : Floor ρ → List Request} (h : Asks made p x)
    (hk : ∀ a, Asks made p (k a)) : Asks made p (x >>= k : Task ρ β) := by
  intro w
  have hone := h w
  rcases hx : x w with ⟨f | a, w'⟩ <;> rw [hx] at hone
  · rw [bind_of_error hx]
    exact hone
  · rw [bind_of_ok hx]
    exact hone.trans (hk a w')

variable [Log.Journal ρ] {b : Bench ρ}

/-- A step leaves the files alone, and makes no requests but ones with such purposes. -/
structure Opens (W : Watch b) (p : Purpose → Prop) (x : Task ρ α) : Prop where
  files : ∀ w, (x w).2.files = w.files
  asks : Asks W.onFloor p x

variable {W : Watch b}

theorem opens_give (r : Except Failure α) : Opens W p (give r) :=
  ⟨fun _ => rfl, fun _ => .of_eq rfl⟩

theorem opens_pure (a : α) : Opens W p (pure a : Task ρ α) := opens_give (.ok a)

theorem opens_onDesk {act : StateM (RunnerDesk ρ) α} (h : Asks W.onDesk p act) :
    Opens W p (onDesk act) :=
  ⟨fun _ => rfl, fun w => h w.rest⟩

theorem opens_report (level : Log.Level) (message : String) :
    Opens W p (report level message) :=
  ⟨fun _ => rfl, fun w => .of_eq (W.notes _ w.rest.rest)⟩

theorem Opens.mono (h : Opens W p x) (hpq : ∀ purpose, p purpose → q purpose) : Opens W q x :=
  ⟨h.files, fun w => (h.asks w).mono hpq⟩

theorem Opens.bind (h : Opens W p x) (hk : ∀ a, Opens W p (k a)) : Opens W p (x >>= k) := by
  refine ⟨fun w => ?_, h.asks.next fun a => (hk a).asks⟩
  have hone := h.files w
  rcases hx : x w with ⟨f | a, w'⟩ <;> rw [hx] at hone
  · rw [bind_of_error hx]
    exact hone
  · rw [bind_of_ok hx]
    exact ((hk a).files w').trans hone

/-- When a step fails with a path, no file is changed and no content was asked for. -/
def Harmless (W : Watch b) (x : Task ρ α) : Prop :=
  ∀ w path reason, (x w).1 = .error (.invalidPath path reason) →
    (x w).2.files = w.files ∧ Adds W.onFloor (· ≠ .content) w (x w).2

theorem harmless_of_notPath (h : StepFailsOnly NotPath x) : Harmless W x :=
  fun w path reason hf => absurd rfl (h w _ hf path reason)

theorem Opens.then (h : Opens W (· ≠ .content) x) (hk : ∀ a, Harmless W (k a)) :
    Harmless W (x >>= k) := by
  intro w path reason hf
  have hfiles := h.files w
  have hasks := h.asks w
  rcases hx : x w with ⟨f | a, w'⟩ <;> rw [hx] at hfiles hasks
  · rw [bind_of_error hx]
    exact ⟨hfiles, hasks⟩
  · rw [bind_of_ok hx] at hf ⊢
    obtain ⟨hfiles', hasks'⟩ := hk a w' path reason hf
    exact ⟨hfiles'.trans hfiles, hasks.trans hasks'⟩

end

/-! ### The stages before generation -/

section

variable {ρ : Type} [Log.Journal ρ] {b : Bench ρ} {W : Watch b} {p : Purpose → Prop}

theorem opens_root (path : String) : Opens W p (b.root path) :=
  ⟨fun _ => rfl, fun _ => .of_eq rfl⟩

theorem opens_readSettings (root : Location) : Opens W p (b.readSettings root) := by
  refine Opens.bind ⟨fun _ => rfl, fun _ => .of_eq rfl⟩ fun w => ?_
  split
  · exact opens_pure _
  · exact (opens_report _ _).bind fun _ => opens_pure _
  · exact opens_give _

theorem opens_settings (root : Location) : Opens W p (b.settings root) := by
  refine (opens_readSettings root).bind fun settings => ?_
  refine (opens_onDesk fun _ => .of_eq rfl).bind fun count => ?_
  refine (opens_onDesk fun d => ?_).bind fun _ => opens_pure _
  refine Asks.bind (fun _ => .of_eq rfl) (fun now => ?_) d
  split
  · exact Asks.bind (asks_note (fun record d => W.notes record d.rest) _ _ _)
      fun _ _ => .of_eq rfl
  · exact fun _ => .of_eq rfl

theorem opens_prompt (settings : Config.Settings) (template : String)
    (picks : Nat → Template.Selection) (values : Template.Values) :
    Opens W (· = .input) (b.prompt settings template picks values) :=
  (opens_onDesk (asks_collectFrom (fun record d => W.notes record d.rest)
    (W.asks_input settings) 0 _)).bind fun _ => opens_pure _

theorem opens_summarizeFor (root : Location) (settings : Config.Settings) :
    Opens W p (summarizeFor (b.fileSystem root) settings : Task ρ Summary) := by
  rw [W.tree]
  exact Opens.bind ⟨fun _ => rfl, fun _ => .of_eq rfl⟩ fun _ =>
    (opens_report _ _).bind fun _ => opens_pure _

theorem opens_planOf (v : Json) :
    Opens W p (ExceptT.lift (planOf v) : Task ρ (List Plan.Item)) := by
  refine ⟨fun w => ?_, fun w => asks_planOf (fun record w => W.notes record w.rest.rest) v w⟩
  obtain ⟨r, hr⟩ := gives_planOf v w
  rw [hr]

/-- A plan is asked for as such. -/
theorem opens_planFiles (settings : Config.Settings) (prompt : String) (summary : Summary) :
    Opens W (· = .plan) (b.planFiles settings prompt summary) := by
  refine (opens_report _ _).bind fun _ => Opens.bind ?_ fun _ => opens_pure _
  refine (opens_onDesk (W.asks_ask settings (by simp [purposeOf]))).bind fun reply => ?_
  cases planValue reply with
  | ok v =>
    exact (opens_planOf v).bind fun _ => (opens_report _ _).bind fun _ => opens_pure _
  | error f =>
    dsimp only
    split
    · refine Opens.bind ?_ fun _ => (opens_planOf _).bind fun _ =>
        (opens_report _ _).bind fun _ => opens_pure _
      exact Opens.bind ⟨fun _ => rfl, fun _ => .of_eq rfl⟩ fun _ => opens_report _ _
    · exact opens_give _

/-! ### Generation -/

theorem contentProvider_eq (settings : Config.Settings) (summary : Summary) :
    b.contentProvider settings summary =
      pure fun prompt all path => Desk.onRest (askRunner W.runner summary prompt all path) := by
  have hfound : onDesk (b.findRunner settings) = (pure (.ok W.runner) : Task ρ _) := by
    rw [W.findRunner_eq]
    rfl
  rw [Bench.contentProvider, hfound, pure_bind]

/-- Generating files asks for their content. -/
theorem asks_benchGenerate (settings : Config.Settings) (fs : FileSystem Node) (summary : Summary)
    (prompt : String) (targets : List String) (overwrite : Option Bool) :
    Asks W.onFloor (· = .content)
      (b.generate settings fs summary prompt targets overwrite) := by
  rw [Bench.generate, contentProvider_eq (W := W), pure_bind]
  refine asks_generate (fun record d => W.notes record d.rest)
    (fun prompt all path => W.asks_onRest (W.asks_askRunner summary prompt all path)) ?_
  intro hear hmem done total message d
  obtain ⟨plain, hplain, rfl⟩ := Option.mem_map.1 hmem
  exact .of_eq (W.hears plain hplain _ _ _ _)

/-- The lists of a run hold its targets, each of them once, and only files that were written have
content that stands in. -/
structure PromptOutcome.Consistent (o : PromptOutcome) : Prop where
  nodup : o.targets.Nodup
  perm : List.Perm o.result.all o.targets
  once : ∀ path ∈ o.targets, ∃! list, path ∈ o.result.bucket list
  fallbacks : ∀ path ∈ o.result.fallbacks, path ∈ o.result.created ∨ path ∈ o.result.overwritten

theorem consistent_nothing (prompt : String) (plan : PlanOutcome) :
    PromptOutcome.Consistent { prompt, plan } :=
  ⟨.nil, .nil, by simp, fun path h => by cases h⟩

variable (b) in
/-- Generating targets that do not repeat gives a consistent outcome. -/
theorem benchGenerate_consistent (settings : Config.Settings) (fs : FileSystem Node)
    (summary : Summary) (prompt : String) (plan : PlanOutcome) {targets : List String}
    (htargets : targets.Nodup) (overwrite : Option Bool) :
    StepEnsures (fun result => PromptOutcome.Consistent { prompt, plan, targets, result })
      (b.generate settings fs summary prompt targets overwrite) := by
  refine .of_last fun provider w result hresult => ?_
  obtain ⟨fates, hfates, rfl⟩ := exists_fates_of_generate hresult
  have hperm := perm_ofFates fates
  rw [hfates] at hperm
  exact ⟨htargets, hperm,
    fun path hpath => existsUnique_bucket (hperm.nodup_iff.2 htargets) (hperm.mem_iff.2 hpath),
    fun path => mem_written_of_mem_fallbacks⟩

/-! ### A whole run -/

variable (W) (t : PromptTask)

theorem consistent_of_runPrompt : StepEnsures PromptOutcome.Consistent (b.runPrompt t) := by
  refine .of_last fun root => .of_last fun settings => .of_last fun prompt =>
    .of_last fun summary => ?_
  cases t.targets with
  | some given =>
    refine (give_ensures _).bind fun targets htargets => .of_last fun _ => ?_
    exact (benchGenerate_consistent b _ _ _ _ _ (Plan.nodup_of_dedupe htargets) _).bind
      fun result hresult => (gives_pure _).ensures hresult
  | none =>
    refine .of_last fun plan => ?_
    split
    · exact .of_last fun _ => (gives_pure _).ensures (consistent_nothing prompt plan)
    · refine (give_ensures _).bind fun targets htargets => ?_
      exact (benchGenerate_consistent b _ _ _ _ _ (Plan.nodup_of_dedupe htargets) _).bind
        fun result hresult => (gives_pure _).ensures hresult

theorem runPrompt_harmless : Harmless W (b.runPrompt t) := by
  have hgenerate : ∀ settings root summary prompt targets (plan : PlanOutcome),
      Harmless W (do
        let result ←
          b.generate settings (b.fileSystem root) summary prompt targets t.overwrite
        return { prompt, plan, targets, result : PromptOutcome }) := by
    intro settings root summary prompt targets plan
    exact harmless_of_notPath <| (generate_notPath b settings summary prompt
      (W.tree ▸ local_notPath root) targets t.overwrite).bind fun _ => stepFailsOnly_pure _
  refine (opens_root t.path).then fun root => (opens_settings root).then fun settings => ?_
  refine ((opens_prompt settings _ _ _).mono (by simp)).then fun prompt =>
    (opens_summarizeFor root settings).then fun summary => ?_
  cases t.targets with
  | some given =>
    exact (opens_give _).then fun targets => (opens_report _ _).then fun _ => hgenerate _ _ _ _ _ _
  | none =>
    refine ((opens_planFiles settings prompt summary).mono (by simp)).then fun plan => ?_
    split
    · exact (opens_report _ _).then fun _ => harmless_of_notPath (stepFailsOnly_pure _)
    · exact (opens_give _).then fun targets => hgenerate _ _ _ _ _ _

section

variable {t} {given : List String} (hgiven : t.targets = some given)

include hgiven

theorem runPrompt_targets_given :
    StepEnsures (fun o => Plan.dedupe given = .ok o.targets) (b.runPrompt t) := by
  refine .of_last fun root => .of_last fun settings => .of_last fun prompt =>
    .of_last fun summary => ?_
  rw [hgiven]
  exact (give_ensures _).bind fun targets htargets => .of_last fun _ => .of_last fun _ =>
    (gives_pure _).ensures htargets

theorem runPrompt_asks_given : Asks W.onFloor (· ≠ .plan) (b.runPrompt t) := by
  refine (opens_root t.path).asks.next fun root =>
    (opens_settings root).asks.next fun settings => ?_
  refine ((opens_prompt settings _ _ _).mono (by simp)).asks.next fun prompt =>
    (opens_summarizeFor root settings).asks.next fun summary => ?_
  rw [hgiven]
  refine (opens_give _).asks.next fun targets => (opens_report _ _).asks.next fun _ => ?_
  refine Asks.next (fun w => ?_) fun _ => (opens_pure _).asks
  exact (asks_benchGenerate settings _ summary prompt targets t.overwrite w).mono (by simp)

end

/-- Whatever a run of a prompt finds, and whatever its runner answers: when it comes to its end, no
target repeats, and each of them is in one list. Given targets are read as typed paths, and no plan
is asked for. When it fails with a path, the files are as they were, and no content was asked
for. -/
theorem runPrompt_consistent {b : Bench ρ} (W : Watch b) (t : PromptTask) (w : Floor ρ) :
    let (answer, w') := b.runPrompt t w
    (∀ o, answer = .ok o → o.Consistent) ∧
    (∀ given, t.targets = some given → Adds W.onFloor (· ≠ .plan) w w' ∧
      ∀ o, answer = .ok o → Plan.dedupe given = .ok o.targets) ∧
    ∀ path reason, answer = .error (.invalidPath path reason) →
      w'.files = w.files ∧ Adds W.onFloor (· ≠ .content) w w' :=
  ⟨consistent_of_runPrompt t w,
    fun _ hgiven => ⟨runPrompt_asks_given W hgiven w, runPrompt_targets_given hgiven w⟩,
    runPrompt_harmless W t w⟩

end

/-! ### Runs in a workspace with blank settings -/

section

variable {ρ : Type} [Log.Journal ρ] {b : Bench ρ} {answer : String}

theorem linkless_plainTree : Linkless plainTree ["w"] := by
  refine ⟨rfl, fun name hm => ?_, by decide, fun place target _ => ne_link_of_linkCount rfl⟩
  rw [List.mem_singleton.1 hm]
  exact ⟨by decide, by decide⟩

/-- Given paths are generated when every content that the runner sends can be written. -/
theorem AlwaysAnswers.runPrompt_given (h : AlwaysAnswers b answer) (W : Watch b)
    (hsends : ∀ r s, ∃ text, (W.runner.send r s).1 = .ok (.text text)) {t : PromptTask}
    (hpath : t.path = "/w") (hkeeps : t.overwrite = none) {given targets : List String}
    (hgiven : t.targets = some given) (hread : Plan.dedupe given = .ok targets)
    (htargets : ∀ path ∈ targets, IsTarget path) {w : Floor ρ} (hw : w.files = plainTree) :
    ∃ o w', b.runPrompt t w = (.ok o, w') := by
  obtain ⟨settings, r, hsettings, hgeneration⟩ := h.settings_eq hw
  obtain ⟨prompt, r₁, hprompt⟩ : ∃ prompt r₁,
      b.prompt settings t.template t.picks t.values ⟨plainTree, r⟩ =
        (.ok prompt, ⟨plainTree, r₁⟩) := ⟨_, _, rfl⟩
  obtain ⟨summary, r₂, hsummary⟩ := summarizeFor_plain (w := ⟨plainTree, r₁⟩) hgeneration rfl
  have htyped : (give (Plan.dedupe given) : Task ρ _) ⟨plainTree, r₂⟩ =
      (.ok targets, ⟨plainTree, r₂⟩) := by
    rw [give_apply, hread]
  obtain ⟨r₃, hreport⟩ := gives_report (ρ := ρ) .info
    s!"Generating {targets.length} explicit path(s)" ⟨plainTree, r₂⟩
  let provider : ContentProvider (RunnerDesk ρ) := fun prompt all path =>
    Desk.onRest (askRunner W.runner summary prompt all path)
  have hwritable : ∀ path d, unwritable? (provider prompt targets path d).1 = none :=
    fun path d => unwritable?_askRunner hsends path d.rest
  obtain ⟨result, w', hgenerate⟩ :=
    exists_generate_linkless linkless_plainTree htargets hwritable b.deskProgress r₃
  have hrun : b.generate settings (.local (.top ["w"])) summary prompt targets t.overwrite
      ⟨plainTree, r₃⟩ = (.ok result, w') := by
    rw [Bench.generate, contentProvider_eq (W := W), pure_bind, hkeeps, hgeneration]
    exact hgenerate
  refine ⟨{ prompt, plan := { items := [] }, targets, result }, w', ?_⟩
  unfold Bench.runPrompt
  rw [hpath, bind_of_ok (h.root_eq hw), bind_of_ok hsettings, bind_of_ok hprompt, h.tree,
    bind_of_ok hsummary, hgiven]
  dsimp only
  rw [bind_of_ok htyped, bind_of_ok hreport, bind_of_ok hrun]
  rfl

end

/-- A runner that always answers with this plan. -/
def blankPlanner : Runner (List Log.Record) :=
  ⟨Settings.of [] {}, fun _ => pure (.ok (.text blankAnswer))⟩

/-- Two spellings of one path are one target; and a run that fails with a planned path, which is no
path for a person, has changed no file and asked for no content. -/
theorem runPrompt_consistent_plain :
    let W := Watch.recorded (.top []) Yaml.load blankPlanner none
    let b := recordedBench (.top []) Yaml.load blankPlanner none
    let w : Floor (Recorded (List Log.Record) Request) := ⟨plainTree, .empty, ⟨[], []⟩⟩
    let typed : PromptTask :=
      { path := "/w", template := "an app", targets := some ["a.txt", "./a.txt"] }
    let untold : PromptTask := { path := "/w", template := "an app" }
    (∃ o w', b.runPrompt typed w = (.ok o, w') ∧ o.Consistent ∧ o.targets = ["a.txt"] ∧
      Adds W.onFloor (· ≠ .plan) w w') ∧
    ∃ w', b.runPrompt untold w = (.error (.invalidPath "" "Path is empty"), w') ∧
      w'.files = plainTree ∧ Adds W.onFloor (· ≠ .content) w w' := by
  intro W b w typed untold
  have halways : AlwaysAnswers b blankAnswer := ⟨rfl, rfl, fun _ _ _ _ _ => rfl⟩
  constructor
  · have hread : Plan.dedupe ["a.txt", "./a.txt"] = .ok ["a.txt"] := rfl
    have htargets : ∀ path ∈ ["a.txt"], IsTarget path := by
      intro path hm
      rw [List.mem_singleton.1 hm]
      exact ⟨⟨"a.txt", rfl⟩, by decide⟩
    obtain ⟨o, w', hrun⟩ := halways.runPrompt_given W (fun _ _ => ⟨_, rfl⟩) (t := typed) rfl rfl rfl
      hread htargets (w := w) rfl
    have hall := runPrompt_consistent W typed w
    rw [hrun] at hall
    obtain ⟨hconsistent, hgiven, -⟩ := hall
    obtain ⟨hadds, hdedupe⟩ := hgiven _ rfl
    have hsame := hdedupe o rfl
    rw [hread] at hsame
    exact ⟨o, w', hrun, hconsistent o rfl, (Except.ok.inj hsame).symm, hadds⟩
  · obtain ⟨d, r, hdraft, hd⟩ := halways.draft_blank (t := untold) rfl (w := w) rfl
    have hselects : untold.select = Plan.selectMatching [] := rfl
    have hread : Plan.dedupe (untold.select d.plan.items) =
        .error (.invalidPath "" "Path is empty") := (congrArg Plan.dedupe hd).trans rfl
    have hfails : (b.runPrompt untold w).1 = .error (.invalidPath "" "Path is empty") := by
      rw [runPrompt_eq b rfl, bind_of_ok hdraft, finish_of_error hselects hread]
    rcases hrun : b.runPrompt untold w with ⟨answer, w'⟩
    have hall := runPrompt_consistent W untold w
    rw [hrun] at hall hfails
    obtain ⟨-, -, hharmless⟩ := hall
    obtain ⟨hfiles, hadds⟩ := hharmless _ _ hfails
    exact ⟨w', by rw [← hfails], hfiles, hadds⟩

end Scaffold.Orchestration
