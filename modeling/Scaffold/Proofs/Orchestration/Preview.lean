import Scaffold.Proofs.Config.Ending
import Scaffold.Proofs.Orchestration.Materialize
import Scaffold.Proofs.Orchestration.Planning

/-!
# Looking at a plan, and making it

A plan is had in the same way whether it is looked at or made (`makePaths_of_ok`,
`makePaths_of_error`), and the files are left alone until then (`files_preview`). What is made of it
are the items that are selected, with globs those that they pick (`picked`). In a workspace with
blank settings a runner that always answers alike decides what the plan is (`AlwaysAnswers`).
-/

namespace Scaffold.Orchestration
open Scaffold.Workspace Scaffold.Provider

/-! ### Steps that leave the files alone -/

section

variable {ρ α β : Type} {x : Task ρ α} {k : α → Task ρ β}

/-- A step leaves the files alone, however it ends. -/
def KeepsFiles (x : Task ρ α) : Prop := ∀ w, (x w).2.files = w.files

theorem keepsFiles_onDesk (act : StateM (RunnerDesk ρ) α) : KeepsFiles (onDesk act) :=
  fun _ => rfl

theorem keepsFiles_give (r : Except Failure α) : KeepsFiles (give r : Task ρ α) := fun _ => rfl

theorem Gives.keepsFiles {a : α} (h : Gives x a) : KeepsFiles x := by
  intro w
  obtain ⟨r, hr⟩ := h w
  rw [hr]

theorem KeepsFiles.bind (h : KeepsFiles x) (hk : ∀ a, KeepsFiles (k a)) :
    KeepsFiles (x >>= k) := by
  intro w
  have hone := h w
  rcases hx : x w with ⟨f | a, w'⟩ <;> rw [hx] at hone
  · rw [bind_of_error hx]
    exact hone
  · rw [bind_of_ok hx]
    exact (hk a w').trans hone

end

section

variable {ρ : Type} [Log.Journal ρ] (b : Bench ρ) (path instructions : String)
  (kinds : Option (List Plan.Kind))

omit [Log.Journal ρ] in
theorem keepsFiles_root : KeepsFiles (b.root path) := fun _ => rfl

theorem keepsFiles_settings (root : Location) : KeepsFiles (b.settings root) := by
  have hread : KeepsFiles (b.readSettings root) := by
    refine KeepsFiles.bind (fun _ => rfl) fun w => ?_
    split
    · exact keepsFiles_give (.ok _)
    · exact (gives_report _ _).keepsFiles.bind fun _ => keepsFiles_give (.ok _)
    · exact keepsFiles_give (.error _)
  exact hread.bind fun settings => (keepsFiles_onDesk _).bind fun count =>
    (keepsFiles_onDesk _).bind fun _ => keepsFiles_give (.ok _)

theorem keepsFiles_summarizeFor (root : Location) (settings : Config.Settings) :
    KeepsFiles (summarizeFor (.local root) settings : Task ρ Summary) :=
  KeepsFiles.bind (fun _ => rfl) fun _ =>
    (gives_report _ _).keepsFiles.bind fun _ => keepsFiles_give (.ok _)

theorem keepsFiles_planPaths (root : Location) :
    KeepsFiles (b.planPaths root (.local root) instructions kinds) := by
  have hrest : KeepsFiles (do
      report .info s!"Planning paths for {root.text}"
      let settings ← b.settings root
      let summary ← summarizeFor (.local root) settings
      b.requestPlan settings (Text.strip instructions) summary
        (kinds.getD settings.generation.kinds)) := by
    refine (gives_report _ _).keepsFiles.bind fun _ => (keepsFiles_settings b root).bind
      fun settings => (keepsFiles_summarizeFor root settings).bind fun summary w => ?_
    obtain ⟨r, hr⟩ := requestPlan_apply b settings (Text.strip instructions) summary
      (kinds.getD settings.generation.kinds) w
    rw [hr]
  unfold Bench.planPaths
  dsimp only
  split
  · exact (keepsFiles_give (.error _)).bind fun _ => hrest
  · exact hrest

variable {b}

/-- Looking at a plan changes no file. -/
theorem files_preview (hfs : b.fileSystem = .local) (w : Floor ρ) :
    (b.preview path instructions kinds w).2.files = w.files := by
  refine (keepsFiles_root b path).bind (fun root => ?_) w
  rw [hfs]
  exact keepsFiles_planPaths b instructions kinds root

/-! ### Making the plan that is looked at -/

variable {path instructions kinds} (select : Plan.Selector) {w w' : Floor ρ}

/-- No plan is made when none can be had. -/
theorem makePaths_of_error {f : Failure}
    (h : b.preview path instructions kinds w = (.error f, w')) :
    b.makePaths path instructions kinds select w = (.error f, w') := by
  unfold Bench.preview at h
  unfold Bench.makePaths
  rcases hroot : b.root path w with ⟨f' | root, w₁⟩
  · rw [bind_of_error hroot] at h ⊢
    cases h
    rfl
  · rw [bind_of_ok hroot] at h ⊢
    exact bind_of_error h

/-- The selected items of the plan are made, in the root that the path names. -/
theorem makePaths_of_ok {plan : PlanOutcome}
    (h : b.preview path instructions kinds w = (.ok plan, w')) :
    ∃ root w₁, w.files.resolve (b.here.join (Location.parse path)).names = .ok root ∧
      w₁.files = w'.files ∧
      b.makePaths path instructions kinds select w =
        let r := materialize (b.fileSystem root)
          (plan.items.filter fun item => (select plan.items).contains item.path) w₁
        (r.1.map fun made => { plan, made }, r.2) := by
  unfold Bench.preview at h
  unfold Bench.makePaths
  rcases hroot : b.root path w with ⟨f' | root, w₁⟩
  · rw [bind_of_error hroot] at h
    cases h
  · rw [bind_of_ok hroot] at h ⊢
    have hresolve : w.files.resolve (b.here.join (Location.parse path)).names = .ok root :=
      congrArg Prod.fst hroot
    -- nothing to make is reported, and then nothing is made
    let noted (message : String) : Floor ρ :=
      ⟨w'.files, Log.Journal.add ⟨.info, "orchestrator", message⟩ w'.rest⟩
    have hnote : ∀ message, (report .info message : Task ρ Unit) w' = (.ok (), noted message) :=
      fun _ => rfl
    simp only [bind_of_ok h]
    by_cases hempty : plan.items.isEmpty = true
    · rw [if_pos hempty, bind_of_ok (hnote _), List.isEmpty_iff.1 hempty]
      exact ⟨root, noted _, hresolve, rfl, rfl⟩
    · rw [if_neg hempty]
      by_cases hnone : (plan.items.filter fun item =>
          (select plan.items).contains item.path).isEmpty = true
      · rw [if_pos hnone, bind_of_ok (hnote _), List.isEmpty_iff.1 hnone]
        exact ⟨root, noted _, hresolve, rfl, rfl⟩
      · rw [if_neg hnone]
        refine ⟨root, w', hresolve, rfl, ?_⟩
        rcases hmade : materialize (b.fileSystem root) (plan.items.filter fun item =>
          (select plan.items).contains item.path) w' with ⟨f | made, w₂⟩
        · exact bind_of_error hmade
        · exact bind_of_ok hmade

end

/-! ### The items that are picked -/

/-- The items whose path some glob stands for; all of them without any glob. -/
def picked (only : List String) (items : List Plan.Item) : List Plan.Item :=
  items.filter fun item => only.isEmpty || only.any fun glob => Glob.matchesText glob item.path

/-- A selection by path keeps whole items. -/
theorem filter_selectMatching (only : List String) (items : List Plan.Item) :
    items.filter (fun item => (Plan.selectMatching only items).contains item.path) =
      picked only items := by
  refine List.filter_congr fun item hitem => ?_
  have hpath : item.path ∈ Plan.paths items := List.mem_map_of_mem hitem
  rw [Bool.eq_iff_iff, List.contains_iff_mem, Plan.selectMatching]
  by_cases hnone : only.isEmpty = true
  · simp [hnone, hpath]
  · simp [hnone, hpath]

/-- All items are picked just when there is no glob, or one for each of them. -/
theorem map_path_picked_eq_iff (only : List String) (items : List Plan.Item) :
    (picked only items).map Plan.Item.path = items.map Plan.Item.path ↔
      only = [] ∨ ∀ item ∈ items, ∃ glob ∈ only, Glob.matchesText glob item.path = true := by
  have hall : (picked only items).map Plan.Item.path = items.map Plan.Item.path ↔
      picked only items = items := by
    constructor
    · intro h
      have hlength := congrArg List.length h
      rw [List.length_map, List.length_map] at hlength
      exact List.filter_sublist.eq_of_length hlength
    · intro h
      rw [h]
  rw [hall, picked, List.filter_eq_self]
  by_cases hnone : only = []
  · simp [hnone]
  · simp [hnone]

/-! ### A workspace with blank settings -/

/-- A workspace with blank settings. -/
def plainTree : Node := settingsTree ""

/-- In the tree of the bench, its runner always answers with the same text. -/
structure AlwaysAnswers {ρ : Type} [Log.Journal ρ] (b : Bench ρ) (answer : String) : Prop where
  here : b.here = .top []
  tree : b.fileSystem = .local
  answers : ∀ settings instructions summary kinds w,
    b.planAnswer settings instructions summary kinds w = .ok (.text answer)

/-- A bench over a tree, with a runner that always answers with the same text. -/
def answeringBench (answer : String) : Bench (List Log.Record) where
  here := .top []
  loader := Yaml.load
  fileSystem := .local
  runner := some ⟨Settings.of [] {}, fun _ => pure (.ok (.text answer))⟩
  build _ := .error (.provider .noKey)
  progress := none

theorem alwaysAnswers_answeringBench (answer : String) :
    AlwaysAnswers (answeringBench answer) answer :=
  ⟨rfl, rfl, fun _ _ _ _ _ => rfl⟩

section

variable {ρ : Type} [Log.Journal ρ] {b : Bench ρ} {answer : String} {w : Floor ρ}

/-- The workspace can be listed. -/
theorem summarizeFor_plain {settings : Config.Settings} (hsettings : settings.generation = {})
    (hw : w.files = plainTree) : ∃ summary r,
      summarizeFor (.local (.top ["w"])) settings w = (.ok summary, ⟨plainTree, r⟩) := by
  let fs := FileSystem.local (.top ["w"])
  let usual : Config.Generation := {}
  have hlists : (fs.listFiles "**/*" usual.exclude usual.existingLimit
      plainTree).1.toOption.isSome = true := by
    decide +kernel
  rcases hlist : fs.listFiles "**/*" usual.exclude usual.existingLimit plainTree with
    ⟨f | files, top⟩
  · rw [hlist] at hlists
    cases hlists
  · have htop : top = plainTree := (congrArg Prod.snd hlist).symm
    have hsummary : (ExceptT.mk (summarize fs usual.existingLimit usual.exclude) :
        Task ρ Summary) w = (.ok (.ofFiles files), ⟨plainTree, w.rest⟩) := by
      simp only [ExceptT.mk, summarize, World.onFiles, bind, StateT.bind, hw, hlist, htop]
      rfl
    unfold summarizeFor
    rw [hsettings]
    exact ⟨_, _, (bind_of_ok hsummary).trans rfl⟩

namespace AlwaysAnswers

variable (h : AlwaysAnswers b answer)

include h

theorem root_eq (hw : w.files = plainTree) : b.root "/w" w = (.ok (.top ["w"]), w) := by
  have hparse : Location.parse "/w" = .top ["w"] := by decide +kernel
  have hplain : '\r' ∉ "".toList := by decide
  have hfound := (found_settingsTree hplain).2.1
  unfold Bench.root
  rw [hparse, h.here]
  refine congrArg (·, w) ?_
  rw [hw]
  exact hfound

theorem settings_eq (hw : w.files = plainTree) : ∃ settings r,
    b.settings (.top ["w"]) w = (.ok settings, ⟨plainTree, r⟩) ∧ settings.generation = {} := by
  let usual : Config.Settings := { root := .top ["w"] }
  have hload : Config.load b.loader b.here (.top ["w"]) w.files = .ok usual := by
    rw [h.here, hw]
    have hplain : '\r' ∉ "".toList := by decide
    exact load_settingsTree hplain
  obtain ⟨reading, w', hsettings⟩ := settings_of_ok hload
  have hfiles := keepsFiles_settings b (.top ["w"]) w
  rw [hsettings, hw] at hfiles
  exact ⟨_, w'.rest, by rw [hsettings, ← hfiles], rfl⟩

/-- The plan is had, whatever the settings and the summary are. -/
theorem requestPlan_eq {kinds : List Plan.Kind} {plan : PlanOutcome}
    (hplan : (planned kinds (.ok (.text answer))).toOption = some plan)
    (settings : Config.Settings) (instructions : String) (summary : Summary) (w : Floor ρ) :
    ∃ r, b.requestPlan settings instructions summary kinds w = (.ok plan, ⟨w.files, r⟩) := by
  obtain ⟨r, hr⟩ := requestPlan_apply b settings instructions summary kinds w
  rw [h.answers] at hr
  cases hp : planned kinds (.ok (.text answer)) with
  | error f =>
    rw [hp] at hplan
    cases hplan
  | ok other =>
    rw [hp] at hr hplan
    cases hplan
    exact ⟨r, hr⟩

/-- A plan for instructions that are not blank. -/
theorem preview_eq {instructions : String} {plan : PlanOutcome}
    (hblank : Text.isBlankText instructions = false)
    (hplan : (planned [.directory, .file] (.ok (.text answer))).toOption = some plan)
    (hw : w.files = plainTree) :
    ∃ r, b.preview "/w" instructions none w = (.ok plan, ⟨plainTree, r⟩) := by
  let root : Location := .top ["w"]
  obtain ⟨r, hreport⟩ := gives_report (ρ := ρ) .info s!"Planning paths for {root.text}" w
  obtain ⟨settings, r₁, hsettings, hgeneration⟩ := h.settings_eq (w := ⟨w.files, r⟩) hw
  obtain ⟨summary, r₂, hsummary⟩ :=
    summarizeFor_plain (w := ⟨plainTree, r₁⟩) hgeneration rfl
  obtain ⟨r₃, hrequest⟩ :=
    h.requestPlan_eq hplan settings (Text.strip instructions) summary ⟨plainTree, r₂⟩
  refine ⟨r₃, ?_⟩
  unfold Bench.preview
  rw [bind_of_ok (h.root_eq hw), h.tree]
  unfold Bench.planPaths
  simp only [hblank, Bool.false_eq_true, if_false]
  rw [bind_of_ok hreport, bind_of_ok hsettings, bind_of_ok hsummary, hgeneration]
  exact hrequest

end AlwaysAnswers

end

end Scaffold.Orchestration
