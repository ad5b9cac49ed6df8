import Scaffold.Proofs.Config.Ending
import Scaffold.Proofs.Json.Printed
import Scaffold.Proofs.Orchestration.Preview
import Scaffold.Proofs.Orchestration.PromptRun
import Scaffold.Service.Handle

/-!
# Paths that a request lists

A request for a plan may list the paths that are to be made. They are compared with those of the
plan as they are written (`listedItems`); they are not read, as typed paths are elsewhere
(`typedItems`). `plan_makes_listed` says of all such requests what is made and what is answered, and
when both ways to select come to the same.
-/

namespace Scaffold.Service
open Scaffold.Orchestration Scaffold.Workspace

/-! ### Two ways to select -/

/-- The items of a plan whose paths are listed as they stand. -/
def listedItems (listed : List String) (items : List Plan.Item) : List Plan.Item :=
  items.filter fun item => listed.contains item.path

/-- The items of a plan whose paths are listed in some spelling. One listed text that is no path
fails them all. -/
def typedItems (listed : List String) (items : List Plan.Item) : Except Failure (List Plan.Item) :=
  (Plan.dedupe listed).map fun cleaned => listedItems cleaned items

section

variable {listed cleaned : List String} {items : List Plan.Item} {item : Plan.Item}

theorem mem_listedItems : item ∈ listedItems listed items ↔ item ∈ items ∧ item.path ∈ listed := by
  simp [listedItems]

theorem listedItems_eq_iff : listedItems listed items = listedItems cleaned items ↔
    ∀ item ∈ items, item.path ∈ listed ↔ item.path ∈ cleaned := by
  constructor
  · intro h item hitem
    have hmem : item ∈ listedItems listed items ↔ item ∈ listedItems cleaned items := by rw [h]
    simpa [mem_listedItems, hitem] using hmem
  · intro h
    refine List.filter_congr fun item hitem => ?_
    rw [Bool.eq_iff_iff, List.contains_iff_mem, List.contains_iff_mem]
    exact h item hitem

/-- Both ways to select come to the same when each listed text is a path, and an item is listed as
it stands just when it is listed in some spelling. -/
theorem typedItems_eq_listedItems_iff :
    typedItems listed items = .ok (listedItems listed items) ↔
      (∀ raw ∈ listed, ∃ path, Plan.typed raw = .ok path) ∧
        ∀ item ∈ items, item.path ∈ listed ↔ ∃ raw ∈ listed, Plan.typed raw = .ok item.path := by
  cases h : Plan.dedupe listed with
  | error f =>
    obtain ⟨front, raw, back, rfl, -, hraw⟩ := Plan.dedupe_eq_error_iff.1 h
    have hrefused : ¬ ∃ path, Plan.typed raw = .ok path := by simp [hraw]
    simp only [typedItems, h, Except.map, reduceCtorEq, false_iff, not_and]
    exact fun hall => absurd (hall raw (by simp)) hrefused
  | ok cleaned =>
    simp only [typedItems, h, Except.map, Except.ok.injEq]
    rw [eq_comm, listedItems_eq_iff]
    simp only [Plan.mem_dedupe h]
    exact (and_iff_right (Plan.typed_of_dedupe h)).symm

end

/-! ### Requests that list paths -/

/-- A request to make those paths of a plan that it lists. -/
structure ListsPaths (r : Request) (p : PlanPayload) (listed : List String) : Prop where
  route : Route.find? r.path = some .plan
  method : r.method.map Char.toUpper = "POST"
  body : readBody PlanPayload.read r.body = some (.read p)
  create : p.create = true
  paths : p.paths = some listed

section

variable {ρ : Type} [Log.Journal ρ] {b : Bench ρ} {r : Request} {p : PlanPayload}
  {listed : List String} {w w' : Floor ρ}

/-- What is answered for a plan that was made. -/
def answerOf (made : Except Failure PathsOutcome) : Except Failure Answer :=
  answered (made.map fun o => .ok (pathsJson o))

/-- The listed paths are handed over as they stand. -/
theorem answer_of_listsPaths (h : ListsPaths r p listed) :
    r.answer b w =
      let made := b.makePaths p.path p.instructions p.kinds (fun _ => listed) w
      (answerOf made.1, made.2) := by
  have hmethod : Route.plan.method = "POST" := rfl
  have hrun : p.run b = b.makePaths p.path p.instructions p.kinds fun _ => listed := by
    simp only [PlanPayload.run, h.create, h.paths, if_true]
  unfold Request.answer
  simp only [h.route, hmethod, h.method, beq_self_eq_true, if_true, Route.answer, withBody, h.body,
    hrun]
  rcases hmade : b.makePaths p.path p.instructions p.kinds (fun _ => listed) w with ⟨f | o, w'⟩
  · exact congrArg (fun x : Except Failure Answer × Floor ρ => (answered x.1, x.2))
      (bind_of_error (bind_of_error hmade))
  · have hjson : (do return pathsJson (← b.makePaths p.path p.instructions p.kinds
        fun _ => listed) : Task ρ Json) w = (.ok (pathsJson o), w') := bind_of_ok hmade
    exact congrArg (fun x : Except Failure Answer × Floor ρ => (answered x.1, x.2))
      (bind_of_ok hjson)

end

section

variable {ρ : Type} [Log.Journal ρ] {b : Bench ρ}

/-- The plan that a request is about has each path once. -/
theorem preview_nodup (path instructions : String) (kinds : Option (List Plan.Kind)) :
    StepEnsures (fun plan => (Plan.paths plan.items).Nodup)
      (b.preview path instructions kinds) := by
  refine .of_last fun root => ?_
  have hplan (settings : Config.Settings) (summary : Summary) :
      StepEnsures (fun plan => (Plan.paths plan.items).Nodup)
        (b.requestPlan settings (Text.strip instructions) summary
          (kinds.getD settings.generation.kinds)) := by
    intro w plan hplan
    obtain ⟨v, hv⟩ := requestPlan_items b _ _ _ _ w plan hplan
    rw [hv]
    exact (Plan.paths_restrict_sublist _ _).nodup (Plan.nodup_paths_build v)
  have hrest : StepEnsures (fun plan => (Plan.paths plan.items).Nodup) (do
      report .info s!"Planning paths for {root.text}"
      let settings ← b.settings root
      let summary ← summarizeFor (b.fileSystem root) settings
      b.requestPlan settings (Text.strip instructions) summary
        (kinds.getD settings.generation.kinds)) :=
    .of_last fun _ => .of_last fun settings => .of_last fun summary => hplan settings summary
  unfold Bench.planPaths
  dsimp only
  split
  · exact .of_last fun _ => hrest
  · exact hrest

/-- How a request ends for which items of a plan are made: each of them is reported, as created or
as failed, in order, or one of them stops the request with a failure that is not answered. -/
inductive Makes (root : Location) (plan : PlanOutcome) (items : List Plan.Item) (w : Floor ρ) :
    Except Failure Answer × Floor ρ → Prop
  | done {made : Made} {w' : Floor ρ} (h : materialize (.local root) items w = (.ok made, w'))
    (hall : List.Perm made.all (Plan.paths items))
    (hcreated : made.created.Sublist (Plan.paths items))
    (hfailed : (made.failed.map Generation.FailedPath.path).Sublist (Plan.paths items)) :
    Makes root plan items w (.ok (.ok (pathsJson { plan, made })), w')
  | stopped {f : Failure} {w' : Floor ρ}
    (h : materialize (.local root) items w = (.error f, w')) (hf : f.isDomain = false) :
    Makes root plan items w (.error f, w')

variable {r : Request} {p : PlanPayload} {listed : List String} {w w' : Floor ρ}
  {root : Location} {plan : PlanOutcome} {items : List Plan.Item} {f : Failure}

theorem makes_materialize : Makes root plan items w
    (answerOf ((materialize (.local root) items w).1.map fun made => { plan, made }),
      (materialize (.local root) items w).2) := by
  rcases h : materialize (.local root) items w with ⟨f | made, w'⟩
  · obtain ⟨front, item, back, made, w₁, -, -, hstops⟩ :=
      (materialize_error_iff items w).1 (congrArg Prod.fst h)
    have hf := hstops.isDomain
    have hanswer : answerOf (.error f) = .error f := by simp [answerOf, answered, Except.map, hf]
    simp only [Except.map, hanswer]
    exact .stopped h hf
  · obtain ⟨hcreated, hfailed⟩ := sublist_of_materialize _ h
    exact .done h (perm_of_materialize _ h) hcreated hfailed

/-- A request whose items are made is not answered as a bad one. -/
theorem Makes.status {x : Except Failure Answer × Floor ρ} (h : Makes root plan items w x)
    {a : Answer} (ha : x.1 = .ok a) : a.status = 200 := by
  cases h with
  | done => cases ha; rfl
  | stopped => cases ha

/-- What is answered when no plan can be had. -/
theorem answer_of_unplanned (h : ListsPaths r p listed)
    (hp : b.preview p.path p.instructions p.kinds w = (.error f, w')) :
    r.answer b w = (answered (.error f), w') := by
  rw [answer_of_listsPaths h, makePaths_of_error _ hp]
  rfl

/-- The listed items of a plan that can be had are made. -/
theorem makes_of_planned (hfs : b.fileSystem = .local) (h : ListsPaths r p listed)
    (hp : b.preview p.path p.instructions p.kinds w = (.ok plan, w')) :
    ∃ root w₁, w.files.resolve (b.here.join (Location.parse p.path)).names = .ok root ∧
      w₁.files = w'.files ∧ Makes root plan (listedItems listed plan.items) w₁ (r.answer b w) := by
  obtain ⟨root, w₁, hroot, hw₁, hmake⟩ := makePaths_of_ok (fun _ => listed) hp
  refine ⟨root, w₁, hroot, hw₁, ?_⟩
  rw [answer_of_listsPaths h, hmake, hfs]
  exact makes_materialize

/-- A failure is answered as a bad request just when it is one of the program's own. -/
theorem answered_error_iff : (∃ a, answered (.error f) = .ok a ∧ a.status = 400) ↔
    f.isDomain = true := by
  cases hf : f.isDomain with
  | true => simp [answered, hf, Answer.because]
  | false => simp [answered, hf]

/-- A request that lists paths. When no plan can be had, this is what is answered. Else those items
of the plan are made whose paths are listed as they stand, in the order of the plan and each once.
They are those that typed paths would select just when each listed text is a path, and an item is
listed as it stands just when it is listed in some spelling. The request is answered as a bad one
only when no plan can be had, whatever it lists. -/
theorem plan_makes_listed (hfs : b.fileSystem = .local) (h : ListsPaths r p listed) (w : Floor ρ) :
    let planned := b.preview p.path p.instructions p.kinds w
    planned.2.files = w.files ∧
    (∀ f, planned.1 = .error f → r.answer b w = (answered (.error f), planned.2)) ∧
    (∀ plan, planned.1 = .ok plan →
      let chosen := listedItems listed plan.items
      (∃ root w₁, w.files.resolve (b.here.join (Location.parse p.path)).names = .ok root ∧
        w₁.files = w.files ∧ Makes root plan chosen w₁ (r.answer b w)) ∧
      (chosen.Sublist plan.items ∧ (Plan.paths chosen).Nodup ∧
        ∀ item, item ∈ chosen ↔ item ∈ plan.items ∧ item.path ∈ listed) ∧
      (typedItems listed plan.items = .ok chosen ↔
        (∀ raw ∈ listed, ∃ path, Plan.typed raw = .ok path) ∧
          ∀ item ∈ plan.items,
            item.path ∈ listed ↔ ∃ raw ∈ listed, Plan.typed raw = .ok item.path)) ∧
    ((∃ a, (r.answer b w).1 = .ok a ∧ a.status = 400) ↔
      ∃ f, planned.1 = .error f ∧ f.isDomain = true) := by
  intro planned
  have hfiles : planned.2.files = w.files := files_preview _ _ _ hfs w
  rcases hp : planned with ⟨f | plan, w'⟩
  · rw [hp] at hfiles
    have hanswer := answer_of_unplanned h hp
    refine ⟨hfiles, ?_, ?_, ?_⟩
    · rintro f' ⟨⟩
      exact hanswer
    · rintro plan ⟨⟩
    · rw [hanswer, answered_error_iff]
      simp
  · rw [hp] at hfiles
    obtain ⟨root, w₁, hroot, hw₁, hmakes⟩ := makes_of_planned hfs h hp
    have hsub : (listedItems listed plan.items).Sublist plan.items := List.filter_sublist
    have hnodup := preview_nodup p.path p.instructions p.kinds w plan (congrArg Prod.fst hp)
    refine ⟨hfiles, ?_, ?_, ?_⟩
    · rintro f ⟨⟩
    · rintro plan' ⟨⟩
      exact ⟨⟨root, w₁, hroot, hw₁.trans hfiles, hmakes⟩,
        ⟨hsub, (hsub.map Plan.Item.path).nodup hnodup, fun item => mem_listedItems⟩,
        typedItems_eq_listedItems_iff⟩
    · simp only [reduceCtorEq, false_and, exists_false, iff_false]
      rintro ⟨a, ha, hstatus⟩
      rw [hmakes.status ha] at hstatus
      cases hstatus

end

/-! ### A plan with one file -/

/-- A body that is a printed object is read as this object. -/
theorem readBody_print {α : Type} {reader : Json → Reading α} {layout : Json.Layout}
    {fields : List (String × Json)} (h : Json.Plain Json.depthLimit (.object fields)) :
    readBody reader (Json.print layout (.object fields)) =
      some (Reading.under (.key "body") (reader (.object fields))) := by
  have hstart : ∃ cs, (Json.print layout (.object fields)).toList = '\x7b' :: cs := by
    rw [Json.print, String.toList_ofList]
    rcases fields with _ | ⟨⟨k, v⟩, fields⟩ <;> exact ⟨_, rfl⟩
  obtain ⟨cs, hcs⟩ := hstart
  have hempty : (Json.print layout (.object fields)).isEmpty = false := by
    rw [Bool.eq_false_iff]
    intro he
    rw [String.isEmpty_iff.1 he] at hcs
    cases hcs
  have hparse : Json.parseChars ('\x7b' :: cs) = .ok (.object fields) := by
    rw [← hcs]
    exact Json.parse_print h
  have hvalue : bodyValue (Json.print layout (.object fields)) = .value (.object fields) := by
    unfold bodyValue
    rw [hempty, hcs]
    simp [hparse]
  simp [readBody, hvalue, readValue]

theorem itemsFrom_texts (listed : List String) (i : Nat) :
    Reading.itemsFrom Reading.text i (listed.map .text) = .read listed := by
  induction listed generalizing i with
  | nil => rfl
  | cons s listed ih =>
    rw [List.map_cons, Reading.itemsFrom, ih]
    rfl

/-- What a request says that lists paths, for one directory. -/
def listing (listed : List String) : List (String × Json) :=
  [("path", .text "/w"), ("instructions", .text "an app"), ("create", .bool true),
    ("paths", .array (listed.map .text))]

def listingRequest (listed : List String) : Request :=
  ⟨"POST", "/plan", Json.print .wire (.object (listing listed))⟩

theorem listsPaths_listingRequest (listed : List String) :
    ListsPaths (listingRequest listed)
      { path := "/w", instructions := "an app", create := true, paths := some listed } listed := by
  have hplain : Json.Plain Json.depthLimit (.object (listing listed)) := by
    have hdepth : Json.depthLimit = 978 + 1 + 1 := rfl
    rw [hdepth]
    refine .object (by simp [listing]) fun field hfield => ?_
    simp only [listing, List.mem_cons, List.not_mem_nil, or_false] at hfield
    rcases hfield with rfl | rfl | rfl | rfl
    · exact .text _
    · exact .text _
    · exact .bool _
    · refine .array fun v hv => ?_
      obtain ⟨s, -, rfl⟩ := List.mem_map.1 hv
      exact .text s
  have hroute : Route.find? "/plan" = some .plan := by decide +kernel
  have hmethod : "POST".map Char.toUpper = "POST" := by decide +kernel
  refine ⟨hroute, hmethod, ?_, rfl, rfl⟩
  have htexts : Reading.texts? (.array (listed.map .text)) = .read (some listed) := by
    rw [Reading.texts?, Reading.orNull, Reading.listOf, itemsFrom_texts]
    · rfl
    · rintro ⟨⟩
  have hread : PlanPayload.read (.object (listing listed)) = .read
      { path := "/w", instructions := "an app", create := true, paths := some listed } := by
    simp [PlanPayload.read, Reading.field, Reading.fieldOr, Json.field?, Json.lookup, listing,
      htexts]
    rfl
  rw [listingRequest, readBody_print hplain, hread]
  rfl

/-- A workspace with blank settings, before anything is done. -/
def plainFloor : Floor (List Log.Record) := ⟨plainTree, .empty, []⟩

/-- A provider that always plans one file. -/
def oneFileBench : Bench (List Log.Record) := answeringBench "[\"a.txt\"]"

def oneFilePlan : PlanOutcome := { items := [Plan.Item.of "a.txt" .file] }

theorem preview_oneFile : ∃ w, oneFileBench.preview "/w" "an app" none plainFloor =
    (.ok oneFilePlan, w) := by
  have hplan : (planned [.directory, .file] (.ok (.text "[\"a.txt\"]"))).toOption =
      some oneFilePlan := by decide +kernel
  have hblank : Text.isBlankText "an app" = false := by decide +kernel
  obtain ⟨r, hpreview⟩ :=
    (alwaysAnswers_answeringBench _).preview_eq hblank hplan (w := plainFloor) rfl
  exact ⟨_, hpreview⟩

/-- The file is made when it is listed as it stands. -/
theorem plan_makes_listed_oneFile :
    let p : PlanPayload :=
      { path := "/w", instructions := "an app", create := true, paths := some ["a.txt"] }
    (oneFileBench.fileSystem = .local ∧ ListsPaths (listingRequest ["a.txt"]) p ["a.txt"]) ∧
      ∃ root w₁, w₁.files = plainFloor.files ∧
        Makes root oneFilePlan [Plan.Item.of "a.txt" .file] w₁
          ((listingRequest ["a.txt"]).answer oneFileBench plainFloor) := by
  intro p
  have hlists := listsPaths_listingRequest ["a.txt"]
  obtain ⟨w', hpreview⟩ := preview_oneFile
  obtain ⟨-, -, hplan, -⟩ := plan_makes_listed (b := oneFileBench) rfl hlists plainFloor
  obtain ⟨⟨root, w₁, -, hw₁, hmakes⟩, -⟩ := hplan oneFilePlan (congrArg Prod.fst hpreview)
  have hchosen : listedItems ["a.txt"] oneFilePlan.items = [Plan.Item.of "a.txt" .file] := by
    decide +kernel
  rw [hchosen] at hmakes
  exact ⟨⟨rfl, hlists⟩, root, w₁, hw₁, hmakes⟩

/-- Nothing is made when the file is not listed as it stands, and the request is answered. -/
theorem answer_of_unlisted {listed : List String} (h : listedItems listed oneFilePlan.items = []) :
    ∃ w', (listingRequest listed).answer oneFileBench plainFloor =
      (.ok (.ok (pathsJson { plan := oneFilePlan })), w') ∧ w'.files = plainFloor.files := by
  obtain ⟨w', hpreview⟩ := preview_oneFile
  have hfiles : w'.files = plainFloor.files := by
    have hkept := files_preview (b := oneFileBench) "/w" "an app" none rfl plainFloor
    rw [hpreview] at hkept
    exact hkept
  have hanswer := answer_of_listsPaths (b := oneFileBench) (w := plainFloor)
    (listsPaths_listingRequest listed)
  obtain ⟨root, w₁, -, hw₁, hmake⟩ := makePaths_of_ok (fun _ => listed) hpreview
  rw [hmake] at hanswer
  unfold listedItems at h
  rw [h] at hanswer
  exact ⟨w₁, hanswer, hw₁.trans hfiles⟩

/-- Another spelling of the planned file selects nothing, though it is read as the file's path; and
a listed text that is no path is not refused. -/
theorem respelled_path_not_made :
    typedItems ["./a.txt"] oneFilePlan.items = .ok oneFilePlan.items ∧
      (∃ w', (listingRequest ["./a.txt"]).answer oneFileBench plainFloor =
        (.ok (.ok (pathsJson { plan := oneFilePlan })), w') ∧ w'.files = plainFloor.files) ∧
      typedItems ["../x"] oneFilePlan.items =
        .error (.invalidPath "../x" "Parent directory references not allowed") ∧
      ∃ w', (listingRequest ["../x"]).answer oneFileBench plainFloor =
        (.ok (.ok (pathsJson { plan := oneFilePlan })), w') ∧ w'.files = plainFloor.files :=
  ⟨rfl, answer_of_unlisted (by decide +kernel), rfl, answer_of_unlisted (by decide +kernel)⟩

end Scaffold.Service
