import Scaffold.Proofs.Library.Saved
import Scaffold.Proofs.Sequence

/-!
# What a call leaves of a store's file

A store reads the elements of its file that are entries, if the file is of this version, and writes
these only. So a call that ends well keeps each entry that is read from the file and is not named
(`edit_keeps`), and what was not read, or not as a whole, is lost with the first call that writes
(`elements_lost`).
-/

namespace Scaffold.Library
open Scaffold.Workspace

/-! ### What calls do with entries -/

/-- The identifiers of the entries that a call names. -/
def Call.named (entries : List Entry) : Call → List String
  | create .. | duplicate .. => []
  | update key _ => (find? entries key).toList.map Entry.id
  | delete keys => (keys.filterMap (find? entries)).map Entry.id

/-- The entries that a call does not name. -/
def Call.unnamed (call : Call) (entries : List Entry) : List Entry :=
  entries.filter fun e => !(call.named entries).contains e.id

theorem fetch_eq_ok {entries : List Entry} {key : String} {e : Entry} :
    fetch entries key = .ok e ↔ find? entries key = some e := by
  unfold fetch
  cases find? entries key <;> simp

theorem filterMap_of_fetched {entries : List Entry} {keys : List String} {targets : List Entry}
    (h : List.Forall₂ (fun key e => fetch entries key = .ok e) keys targets) :
    keys.filterMap (find? entries) = targets := by
  induction h with
  | nil => rfl
  | cons hkey _ ih => rw [List.filterMap_cons_some (fetch_eq_ok.1 hkey), ih]

theorem filter_sublist_replace (entries : List Entry) (e : Entry) :
    (entries.filter fun old => !old.id == e.id).Sublist (replace entries e) := by
  induction entries with
  | nil => exact .slnil
  | cons old entries ih =>
    rw [replace, List.map_cons, ← replace, List.filter_cons]
    cases hid : old.id == e.id with
    | true => exact ih.cons _
    | false => exact ih.cons_cons old

theorem mem_replace {entries : List Entry} {e x : Entry} (h : x ∈ replace entries e) :
    x ∈ entries ∨ x = e := by
  obtain ⟨old, hold, rfl⟩ := List.mem_map.1 h
  split
  · exact Or.inr rfl
  · exact Or.inl hold

section

variable {d : Draw} {before : List Entry} {e : Effect} {call : Call}

theorem stored_eq_ok {name content description : String}
    (h : stored d before name content description = .ok e) :
    ∃ new, e = ⟨[new], before ++ [new]⟩ := by
  unfold stored at h
  cases hname : checkName before name none with
  | error f => simp [hname, bind, Except.bind] at h
  | ok cleaned =>
    cases hcontent : checkContent content with
    | error f => simp [hname, hcontent, bind, Except.bind] at h
    | ok u =>
      simp only [hname, hcontent, bind, Except.bind, pure, Except.pure, Except.ok.injEq] at h
      exact ⟨_, h.symm⟩

/-- A call keeps the entries that it does not name, and adds those that it answers. -/
theorem effect_keeps (h : call.effect d before = .ok e) :
    (call.unnamed before).Sublist e.after ∧ ∀ x ∈ e.after, x ∈ before ∨ x ∈ e.answer := by
  have hnew : (∃ new, e = ⟨[new], before ++ [new]⟩) → call.named before = [] →
      (call.unnamed before).Sublist e.after ∧ ∀ x ∈ e.after, x ∈ before ∨ x ∈ e.answer := by
    rintro ⟨new, rfl⟩ hnamed
    refine ⟨?_, fun x hx => List.mem_append.1 hx⟩
    exact List.filter_sublist.trans (List.sublist_append_left _ _)
  cases call with
  | create name content description => exact hnew (stored_eq_ok h) rfl
  | update key changes =>
    simp only [Call.effect] at h
    cases hfetch : fetch before key with
    | error f => simp [hfetch, bind, Except.bind] at h
    | ok current =>
      cases hcheck : changes.check before current with
      | error f => simp [hfetch, hcheck, bind, Except.bind] at h
      | ok checked =>
        simp only [hfetch, hcheck, bind, Except.bind, pure, Except.pure, Except.ok.injEq] at h
        subst h
        -- the changed entry has the identifier of the old one
        have hnamed : (Call.update key changes).named before = [current.id] := by
          simp [Call.named, fetch_eq_ok.1 hfetch]
        have hunnamed : (Call.update key changes).unnamed before =
            before.filter fun old => !old.id == (checked.apply current d.time).id := by
          refine List.filter_congr fun old _ => ?_
          rw [hnamed, List.contains_cons, List.contains_nil, Bool.or_false]
          rfl
        rw [hunnamed]
        refine ⟨filter_sublist_replace before _, fun x hx => ?_⟩
        exact (mem_replace hx).imp_right List.mem_singleton.2
  | delete keys =>
    simp only [Call.effect] at h
    cases hkeys : keys.mapM (fetch before) with
    | error f => simp [hkeys, bind, Except.bind] at h
    | ok targets =>
      simp only [hkeys, bind, Except.bind, pure, Except.pure, Except.ok.injEq] at h
      subst h
      have hnamed : (Call.delete keys).named before = targets.map Entry.id :=
        congrArg (List.map Entry.id) (filterMap_of_fetched (mapM_eq_ok_iff.1 hkeys))
      have hunnamed : (Call.delete keys).unnamed before =
          without before (targets.map Entry.id).eraseDups := by
        refine List.filter_congr fun old _ => ?_
        simp [hnamed, List.mem_eraseDups]
      rw [hunnamed]
      exact ⟨.refl _, fun x hx => Or.inl (List.mem_of_mem_filter hx)⟩
  | duplicate key name =>
    simp only [Call.effect] at h
    cases hfetch : fetch before key with
    | error f => simp [hfetch, bind, Except.bind] at h
    | ok source =>
      simp only [hfetch, bind, Except.bind] at h
      exact hnew (stored_eq_ok h) rfl

end

/-! ### What stays in the file -/

/-- The elements of the list of templates in a file. -/
def elements (v : Json) : List Json :=
  match v.field? "templates" with
  | some (.array items) => items
  | _ => []

theorem elements_toJson (entries : List Entry) :
    elements (toJson entries) = entries.map Entry.toJson := by
  simp [elements, toJson, Json.field?, Json.lookup]

section

variable {ρ : Type} [Log.Journal ρ] [Clock ρ] {cwd : Here} {l : Location} {s s' : Store}
  {w w' : World Node ρ}

/-- What is in the file after a call that ends well: the entries that were read from a file of this
version and that the call does not name, in their order. If anything is written, each element of the
file is an entry that was read from it or that the call answers. -/
theorem edit_keeps (h : Used cwd l s w) {v : Json} (hv : readStore cwd l w.files = .ok (some v))
    {call : Call} {answer : List Entry}
    (hrun : call.run cwd s w = ((s', .ok answer), w')) :
    ∃ v', readStore cwd l w'.files = .ok (some v') ∧
      (hasVersion v = true → (call.unnamed (ofJson v)).Sublist (ofJson v')) ∧
      (answer = [] ∧ w'.files = w.files ∨
        hasVersion v' = true ∧ elements v' = (ofJson v').map Entry.toJson ∧
          ∀ e ∈ ofJson v', e ∈ answer ∨ hasVersion v = true ∧ e ∈ ofJson v) := by
  obtain ⟨-, heffect, hends⟩ := h.inFile.run hrun
  obtain ⟨v₀, hv₀, hs⟩ := h.inFile.read
  rw [hv] at hv₀
  cases hv₀
  obtain ⟨hkept, hadded⟩ := effect_keeps heffect
  rcases hends with ⟨rfl, rfl, hfiles⟩ | hread
  · refine ⟨v, hfiles ▸ hv, fun _ => List.filter_sublist, Or.inl ⟨rfl, hfiles⟩⟩
  · refine ⟨toJson s'.entries, hread, fun hversion => ?_, Or.inr ⟨hasVersion_toJson _, ?_, ?_⟩⟩
    · rw [ofJson_toJson]
      rw [hs, entriesOf, if_pos hversion] at hkept
      exact hkept
    · rw [elements_toJson, ofJson_toJson]
    · intro e he
      rw [ofJson_toJson] at he
      refine (hadded e he).symm.imp_right fun hold => ?_
      rw [hs, entriesOf] at hold
      split at hold
      · next hversion => exact ⟨hversion, hold⟩
      · cases hold

end

/-! ### A file with elements of other shapes -/

/-- Two entries, the second of which is to be deleted. -/
def keptEntry : Entry := ⟨"1", "Kept", "", "text", "", ""⟩

def droppedEntry : Entry := ⟨"2", "Dropped", "", "text", "", ""⟩

/-- The first entry with a field that entries do not have. -/
def wideElement : Json :=
  .object [("id", .text "1"), ("name", .text "Kept"), ("description", .text ""),
    ("content", .text "text"), ("created_at", .text ""), ("updated_at", .text ""),
    ("tags", .array [])]

/-- An element that is no entry. -/
def nameOnly : Json := .object [("name", .text "Other")]

/-- The value of a file of some version with these elements. -/
def mixedValue (n : Int) : Json :=
  .object [("version", .int n), ("templates", .array [wideElement, nameOnly, droppedEntry.toJson])]

theorem plain_mixedValue {n : Int} (hn : n.natAbs < 10) :
    Json.Plain Json.depthLimit (mixedValue n) := by
  refine plain_versioned hn fun v hv => ?_
  simp only [List.mem_cons, List.not_mem_nil, or_false] at hv
  rcases hv with rfl | rfl | rfl
  · refine .object (by simp) fun field hfield => ?_
    simp only [List.mem_cons, List.not_mem_nil, or_false] at hfield
    rcases hfield with rfl | rfl | rfl | rfl | rfl | rfl | rfl
    iterate 6 exact .text _
    exact .array (by simp)
  · refine .object (by simp) fun field hfield => ?_
    rw [List.mem_singleton.1 hfield]
    exact .text _
  · exact droppedEntry.plain_toJson _

section

variable {n : Int} {call : Call} {e : Effect}

/-- A call with something to do rewrites the file from the entries that were read. -/
theorem exists_run_of_effect (hn : n.natAbs < 10)
    (he : call.effect (draw ([] : List Log.Record)) (entriesOf (some (mixedValue n))) = .ok e)
    (hanswer : e.answer ≠ []) :
    ∃ (s : Store) (w w' : World Node (List Log.Record)),
      s.entries = entriesOf (some (mixedValue n)) ∧ Used (.top []) topLocation s w ∧
        readStore (.top []) topLocation w.files = .ok (some (mixedValue n)) ∧
        call.run (.top []) s w = ((⟨topLocation, e.after⟩, .ok e.answer), w') ∧
        readStore (.top []) topLocation w'.files = .ok (some (toJson e.after)) := by
  let w : World Node (List Log.Record) := ⟨topTree (Json.print .file (mixedValue n)), []⟩
  have hread : readStore (.top []) topLocation w.files = .ok (some (mixedValue n)) :=
    (readStore_of_written rfl hasNul_topLocation (plain_mixedValue hn) (writeText_empty _)).1
  have hused : Used (.top []) topLocation ⟨topLocation, entriesOf (some (mixedValue n))⟩ w := by
    obtain ⟨r, hload⟩ := load_apply (.top []) topLocation w
    rw [hread] at hload
    -- what was reported on opening is of no matter
    exact (Used.opened rfl hload).waited []
  obtain ⟨r, hrun⟩ := run_of_written (s := ⟨topLocation, _⟩) (w := w) he hanswer
    (writeText_topTree _ _)
  exact ⟨_, w, _, rfl, hused, hread, hrun,
    (readStore_of_written rfl hasNul_topLocation (plain_toJson _) (writeText_empty _)).1⟩

end

theorem effect_delete : (Call.delete ["2"]).effect (draw ([] : List Log.Record))
    (entriesOf (some (mixedValue 1))) = .ok ⟨[droppedEntry], [keptEntry]⟩ := by
  rfl

/-- The first entry is still in the file when the second one was deleted. -/
theorem delete_keeps : ∃ (s s' : Store) (w w' : World Node (List Log.Record)),
    Used (.top []) topLocation s w ∧
      readStore (.top []) topLocation w.files = .ok (some (mixedValue 1)) ∧
      (Call.delete ["2"]).run (.top []) s w = ((s', .ok [droppedEntry]), w') ∧
      ∃ v', readStore (.top []) topLocation w'.files = .ok (some v') ∧ keptEntry ∈ ofJson v' := by
  obtain ⟨s, w, w', -, hused, hread, hrun, -⟩ :=
    exists_run_of_effect (by decide) effect_delete (List.cons_ne_nil _ _)
  obtain ⟨v', hv', hkept, -⟩ := edit_keeps hused hread hrun
  refine ⟨s, _, w, w', hused, hread, hrun, v', hv', (hkept rfl).subset ?_⟩
  exact List.mem_of_elem_eq_true rfl

/-- A call ends well on a store in the top directory whose file holds a value, and then an element
of the value, one that the call does not name, is not in the file any more. -/
def Loses (v : Json) (call : Call) (x : Json) : Prop :=
  ∃ (s s' : Store) (w w' : World Node (List Log.Record)) (answer : List Entry) (v' : Json),
    Used (.top []) topLocation s w ∧ readStore (.top []) topLocation w.files = .ok (some v) ∧
      call.run (.top []) s w = ((s', .ok answer), w') ∧
      readStore (.top []) topLocation w'.files = .ok (some v') ∧
      (∀ id ∈ call.named s.entries, x.field? "id" ≠ some (.text id)) ∧
      x ∈ elements v ∧ x ∉ elements v'

theorem loses_of_effect {n : Int} (hn : n.natAbs < 10) {call : Call} {e : Effect}
    (he : call.effect (draw ([] : List Log.Record)) (entriesOf (some (mixedValue n))) = .ok e)
    (hanswer : e.answer ≠ []) {x : Json}
    (hunnamed : ∀ id ∈ call.named (entriesOf (some (mixedValue n))),
      x.field? "id" ≠ some (.text id))
    (hx : x ∈ elements (mixedValue n)) (hlost : x ∉ e.after.map Entry.toJson) :
    Loses (mixedValue n) call x := by
  obtain ⟨s, w, w', hs, hused, hread, hrun, hread'⟩ := exists_run_of_effect hn he hanswer
  refine ⟨s, _, w, w', _, toJson e.after, hused, hread, hrun, hread', hs ▸ hunnamed, hx, ?_⟩
  rwa [elements_toJson]

/-- An element that is no entry, one with a field that entries do not have, and an entry in a file
of another version. -/
theorem elements_lost :
    Loses (mixedValue 1) (.delete ["2"]) nameOnly ∧
      Loses (mixedValue 1) (.delete ["2"]) wideElement ∧
      Loses (mixedValue 2) (.create "A" "text" "") droppedEntry.toJson := by
  have hcreate : (Call.create "A" "text" "").effect (draw ([] : List Log.Record))
      (entriesOf (some (mixedValue 2))) = .ok ⟨[firstEntry], [firstEntry]⟩ := rfl
  have hnamed : (Call.delete ["2"]).named (entriesOf (some (mixedValue 1))) = ["2"] := rfl
  have hone : (1 : Int).natAbs < 10 := by decide
  have htwo : (2 : Int).natAbs < 10 := by decide
  refine ⟨loses_of_effect hone effect_delete (List.cons_ne_nil _ _) ?_ ?_ ?_,
    loses_of_effect hone effect_delete (List.cons_ne_nil _ _) ?_ ?_ ?_,
    loses_of_effect htwo hcreate (List.cons_ne_nil _ _) ?_ ?_ ?_⟩
  · simp [hnamed, nameOnly, Json.field?, Json.lookup]
  · exact .tail _ (.head _)
  · simp [nameOnly, Entry.toJson]
  · simp [hnamed, wideElement, Json.field?, Json.lookup]
  · exact .head _
  · simp [wideElement, Entry.toJson]
  · simp [Call.named]
  · exact .tail _ (.tail _ (.head _))
  · simp [droppedEntry, firstEntry, Entry.toJson]

end Scaffold.Library
