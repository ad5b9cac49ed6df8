import Scaffold.Proofs.Cli.Plan
import Scaffold.Proofs.Library.Edits
import Scaffold.Proofs.Library.Table

/-!
# Deleting templates

A deletion answers one template for each key, and takes away all that have these identifiers
(`Deletion`). In a store where identifiers are told apart, as calls leave it, what was taken away is
what was answered, each template once. So the answer and the count that the command prints are those
of the templates taken away just when no two keys name one template (`delete_reports`).
-/

namespace Scaffold.Library
open Scaffold.Workspace

/-- No two templates have one identifier. -/
def Distinct (entries : List Entry) : Prop := (entries.map Entry.id).Nodup

/-- What a deletion of keys answers and leaves of the templates before. -/
structure Deletion (before : List Entry) (keys : List String) (answer after : List Entry) :
    Prop where
  /-- a template for each key -/
  named : List.Forall₂ (fun key e => fetch before key = .ok e) keys answer
  left : after = before.filter fun e => !(answer.map Entry.id).contains e.id
  /-- in any store, the answer must be what was taken away, each template as often as it was
  there -/
  perm_iff : (answer ++ after).Perm before ↔
    answer.Perm (before.filter fun e => (answer.map Entry.id).contains e.id)
  once : Distinct before → (answer.eraseDups ++ after).Perm before
  nodup_iff : Distinct before → ((answer ++ after).Perm before ↔ answer.Nodup)
  count_iff : Distinct before → (answer.length = before.length - after.length ↔ answer.Nodup)

section

variable {before answer : List Entry} {keys : List String}

theorem mem_of_fetched (h : List.Forall₂ (fun key e => fetch before key = .ok e) keys answer) :
    ∀ e ∈ answer, e ∈ before :=
  mem_of_keyed (h.imp fun _ _ hkey => keyed_of_fetch hkey)

/-- Targets, each once, and the entries that are none of them are all entries. -/
theorem perm_eraseDups_append (hids : Distinct before) (hmem : ∀ e ∈ answer, e ∈ before) :
    (answer.eraseDups ++ before.filter fun e => !answer.contains e).Perm before := by
  have htaken : answer.eraseDups.Perm (before.filter fun e => answer.contains e) := by
    refine (List.perm_ext_iff_of_nodup (nodup_eraseDups answer) (hids.of_map.filter _)).2 ?_
    intro e
    simp only [List.mem_eraseDups, List.mem_filter, List.contains_iff_mem]
    exact ⟨fun he => ⟨hmem e he, he⟩, And.right⟩
  exact (htaken.append_right _).trans (List.filter_append_perm _ _)

/-- What is answered for keys whose templates go. -/
theorem deletion_of_fetched
    (h : List.Forall₂ (fun key e => fetch before key = .ok e) keys answer) :
    Deletion before keys answer (without before (answer.map Entry.id).eraseDups) := by
  have hmem := mem_of_fetched h
  have hleft : without before (answer.map Entry.id).eraseDups =
      before.filter fun e => !(answer.map Entry.id).contains e.id := by
    refine List.filter_congr fun e _ => ?_
    simp [List.mem_eraseDups]
  have honce : Distinct before →
      (answer.eraseDups ++ without before (answer.map Entry.id).eraseDups).Perm before := by
    intro hids
    rw [without_eq hids hmem]
    exact perm_eraseDups_append hids hmem
  -- two lists that make up the same templates with what is left have the same templates
  have hcancel : ∀ {xs ys : List Entry},
      (ys ++ without before (answer.map Entry.id).eraseDups).Perm before →
      ((xs ++ without before (answer.map Entry.id).eraseDups).Perm before ↔ xs.Perm ys) := by
    intro xs ys hys
    constructor
    · exact fun hxs => (List.perm_append_right_iff _).1 (hxs.trans hys.symm)
    · exact fun hxs => (hxs.append_right _).trans hys
  refine ⟨h, hleft, hcancel ?_, honce, fun hids => ?_, fun hids => ?_⟩
  · rw [hleft]
    exact List.filter_append_perm _ _
  · rw [hcancel (honce hids)]
    constructor
    · exact fun hperm => hperm.nodup_iff.2 (nodup_eraseDups answer)
    · intro hnodup
      rw [eraseDups_eq_self_iff.2 hnodup]
  · have hlength := (honce hids).length_eq
    rw [List.length_append] at hlength
    rw [← eraseDups_eq_self_iff]
    constructor
    · intro hcount
      exact eraseDups_eq_self_of_length (by omega)
    · intro hsame
      rw [hsame] at hlength
      omega

variable {ρ : Type} [Log.Journal ρ] [Clock ρ] {cwd : Here} {s s' : Store} {w w' : World Node ρ}

/-- A deletion that ends well takes away the templates of its keys. -/
theorem deletion_of_delete (h : s.delete cwd keys w = ((s', .ok answer), w')) :
    Deletion s.entries keys answer s'.entries := by
  have hends : CallEndsWith cwd s (.delete keys) w ((s', .ok answer), w') := h ▸ delete_ends keys
  have heffect : (Call.delete keys).effect (draw w.rest) s.entries =
      .ok ⟨answer, s'.entries⟩ := by
    cases hends with
    | idle hdoes => exact hdoes
    | written hdoes _ => exact hdoes
  obtain ⟨targets, htargets, he⟩ := bind_eq_ok heffect
  simp only [pure, Except.pure, Except.ok.injEq, Effect.mk.injEq] at he
  obtain ⟨rfl, hafter⟩ := he
  rw [← hafter]
  exact deletion_of_fetched (mapM_eq_ok_iff.1 htargets)

end

end Scaffold.Library

namespace Scaffold.Cli
open Scaffold.Workspace Scaffold.Orchestration Scaffold.Library

section

variable {ρ : Type} [Log.Terminal ρ] [Clock ρ] {s s' : Store} {keys : List String}
  {answer : List Entry} {w w' : Floor ρ}

/-- The command prints the length of the answer. -/
theorem useStore_delete (setting : Setting ρ)
    (h : s.delete setting.here keys w = ((s', .ok answer), w')) :
    setting.useStore s (.delete keys) w =
      (.ok (), printed [s!"Deleted {answer.length} template(s)"] w') := by
  have hanswer : (Prod.snd <$> s.delete setting.here keys : StateM (Floor ρ) _) w =
      (.ok answer, w') := by
    simp only [Functor.map, StateT.map, bind, h]
    rfl
  exact (task_bind_of_ok hanswer).trans (prints_say _ w')

/-- The answer of a deletion is one template for each key. It has the templates that were taken away
just when no two keys name one template, and the count that the command prints is right just then;
with each template once it has them always. -/
theorem delete_reports (setting : Setting ρ)
    (h : s.delete setting.here keys w = ((s', .ok answer), w')) :
    Deletion s.entries keys answer s'.entries ∧
      (∀ l, Reached (RunnerDesk ρ) setting.here l s → Distinct s.entries) ∧
      setting.useStore s (.delete keys) w =
        (.ok (), printed [s!"Deleted {answer.length} template(s)"] w') :=
  ⟨deletion_of_delete h, fun _ hreached => hreached.isTable.ids, useStore_delete setting h⟩

end

/-! ### Deletions on a console -/

instance : Log.Terminal Log.Console where
  threshold := Log.Console.threshold
  add := Log.Console.add
  console := id
  withConsole console _ := console

/-- A clock that stands still, and chance that always draws the same. -/
instance : Clock Log.Console where
  now := return 0
  chance := return 0

/-- Commands in the top directory, without a network. -/
def topSetting : Setting Log.Console where
  here := .top []
  loader := Yaml.load
  environment := []
  transport _ := return .unreachable "no network"
  serve _ _ := return .ok ()

/-- A tree, and nothing done yet. -/
def floorOn (top : Node) : Floor Log.Console := ⟨top, ⟨.empty, {}⟩⟩

/-- Where nothing is in the way of the file, templates are deleted. -/
theorem exists_delete {entries answer after : List Entry} {keys : List String}
    (he : (Call.delete keys).effect (draw (floorOn .empty).rest) entries = .ok ⟨answer, after⟩)
    (hanswer : answer ≠ []) :
    ∃ w w' : Floor Log.Console, Store.delete topSetting.here ⟨topLocation, entries⟩ keys w =
      ((⟨topLocation, after⟩, .ok answer), w') := by
  obtain ⟨r, hrun⟩ := run_of_written (s := ⟨topLocation, entries⟩) (w := floorOn .empty) he hanswer
    (writeText_empty _)
  exact ⟨_, _, hrun⟩

/-- One template by its name and one by its identifier. -/
theorem delete_reports_both : ∃ (s s' : Store) (w w' : Floor Log.Console),
    s.entries = [keptEntry, droppedEntry] ∧
      s.delete topSetting.here [" dropped ", "1"] w =
        ((s', .ok [droppedEntry, keptEntry]), w') ∧
      ([droppedEntry, keptEntry] ++ s'.entries).Perm s.entries ∧
      topSetting.useStore s (.delete [" dropped ", "1"]) w =
        (.ok (), printed ["Deleted 2 template(s)"] w') := by
  have he : (Call.delete [" dropped ", "1"]).effect (draw (floorOn .empty).rest)
      [keptEntry, droppedEntry] = .ok ⟨[droppedEntry, keptEntry], []⟩ := rfl
  obtain ⟨w, w', hdelete⟩ := exists_delete he (List.cons_ne_nil _ _)
  obtain ⟨hdeletion, -, hprints⟩ := delete_reports topSetting hdelete
  have hids : Distinct [keptEntry, droppedEntry] := by
    show ["1", "2"].Nodup
    decide
  exact ⟨_, _, w, w', rfl, hdelete, (hdeletion.nodup_iff hids).2 (by decide), hprints⟩

/-- The template that a new store is given first. -/
def soleEntry : Entry :=
  let d := draw (floorOn .empty).rest
  ⟨d.id, "A", "", "text", d.time, d.time⟩

theorem reached_soleEntry :
    Reached (RunnerDesk Log.Console) (.top []) topLocation ⟨topLocation, [soleEntry]⟩ := by
  have hopened : Reached (RunnerDesk Log.Console) (.top []) topLocation ⟨topLocation, []⟩ :=
    .opened (w := floorOn .empty) readStore_empty (load_of_missing readStore_empty)
  have he : (Call.create "A" "text" "").effect (draw (floorOn .empty).rest) [] =
      .ok ⟨[soleEntry], [soleEntry]⟩ := rfl
  have hcalled := hopened.called (Call.create "A" "text" "") (floorOn .empty) (by simp)
  rwa [(run_of_effect (.top []) (s := ⟨topLocation, []⟩) (w := floorOn .empty) he).1] at hcalled

/-- The only template is found by its name, whatever its identifier is. -/
theorem fetch_singleton {e : Entry} {key : String} (h : e.lowered = Text.lower (Text.strip key)) :
    fetch [e] key = .ok e := by
  rw [Entry.lowered] at h
  cases hid : e.id == key <;> simp [fetch, find?, hid, h]

theorem effect_respelled : (Call.delete ["A", "a"]).effect (draw (floorOn .empty).rest)
    [soleEntry] = .ok ⟨[soleEntry, soleEntry], []⟩ := by
  have hupper : fetch [soleEntry] "A" = .ok soleEntry := fetch_singleton rfl
  have hlower : fetch [soleEntry] "a" = .ok soleEntry := fetch_singleton rfl
  simp [Call.effect, hupper, hlower, without, List.mem_eraseDups, bind, Except.bind, pure,
    Except.pure]

/-- Two spellings of one name: the template goes once, and is reported twice. -/
theorem respelled_key_reported_twice : ∃ (s s' : Store) (w w' : Floor Log.Console),
    Reached (RunnerDesk Log.Console) topSetting.here topLocation s ∧ s.entries = [soleEntry] ∧
      s.delete topSetting.here ["A", "a"] w = ((s', .ok [soleEntry, soleEntry]), w') ∧
      s'.entries = [] ∧ ¬ ([soleEntry, soleEntry] ++ s'.entries).Perm s.entries ∧
      topSetting.useStore s (.delete ["A", "a"]) w =
        (.ok (), printed ["Deleted 2 template(s)"] w') := by
  obtain ⟨w, w', hdelete⟩ := exists_delete effect_respelled (List.cons_ne_nil _ _)
  have hprints := useStore_delete topSetting hdelete
  have hcount : s!"Deleted {[soleEntry, soleEntry].length} template(s)" =
      "Deleted 2 template(s)" := rfl
  rw [hcount] at hprints
  refine ⟨_, _, w, w', reached_soleEntry, rfl, hdelete, rfl, fun hperm => ?_, hprints⟩
  have hlength := hperm.length_eq
  cases hlength

end Scaffold.Cli
