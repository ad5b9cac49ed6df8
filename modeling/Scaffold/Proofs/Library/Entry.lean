import Scaffold.Library.Entry
import Scaffold.Proofs.Text.Blank

/-!
# Tables of templates

Stored templates are a table (`IsTable`): no identifier comes twice, no name comes twice without
regard to case, and each template is `Sound`. In a table a key stands for one entry at most
(`Keyed`), which is the one that is fetched (`fetch_eq_ok_iff`). A table stays one when an entry
with a new identifier and a free name comes to its end, takes the place of another one, or goes.
-/

namespace Scaffold.Library

/-- Names and descriptions are trimmed, names and content say something. -/
structure Entry.Sound (e : Entry) : Prop where
  name_stripped : Text.strip e.name = e.name
  name_ne : e.name ≠ ""
  description_stripped : Text.strip e.description = e.description
  content_said : Text.isBlankText e.content = false

/-- A name without regard to case. -/
def Entry.lowered (e : Entry) : String := Text.lower e.name

/-- A list of templates as a store has them. -/
structure IsTable (entries : List Entry) : Prop where
  ids : (entries.map Entry.id).Nodup
  names : (entries.map Entry.lowered).Nodup
  sound : ∀ e ∈ entries, e.Sound

/-- The key is the identifier of the entry; or it is that of no entry, and it is the name of the
entry but for case and white space at its ends. -/
def Keyed (entries : List Entry) (key : String) (e : Entry) : Prop :=
  e ∈ entries ∧ (e.id = key ∨
    (∀ other ∈ entries, other.id ≠ key) ∧ e.lowered = Text.lower (Text.strip key))

/-- No entry has the name, but perhaps the one with the identifier `except`. -/
def Free (entries : List Entry) (except : Option String) (name : String) : Prop :=
  ∀ e ∈ entries, some e.id ≠ except → e.lowered ≠ Text.lower name

/-- Why a name may not be given. -/
inductive NameFault (entries : List Entry) (except : Option String) (name : String) :
    StoreFault → Prop
  | blank (h : Text.strip name = "") : NameFault entries except name .nameRequired
  | taken (h : Text.strip name ≠ "") (hfree : ¬ Free entries except (Text.strip name)) :
      NameFault entries except name .nameTaken

section

variable {entries front back : List Entry} {e old : Entry} {key name : String} {f : Failure}
  {except : Option String}

/-! ### Keys -/

theorem keyed_of_find? (h : find? entries key = some e) : Keyed entries key e := by
  simp only [find?] at h
  cases hid : entries.find? fun e => e.id == key with
  | some e' =>
    rw [hid, Option.some_or, Option.some.injEq] at h
    subst h
    have hkey := List.find?_some hid
    exact ⟨List.mem_of_find?_eq_some hid, Or.inl (beq_iff_eq.1 hkey)⟩
  | none =>
    rw [hid, Option.none_or] at h
    have hno : ∀ other ∈ entries, other.id ≠ key := by simpa using hid
    have hname := List.find?_some h
    exact ⟨List.mem_of_find?_eq_some h, Or.inr ⟨hno, beq_iff_eq.1 hname⟩⟩

/-- A key that is not found stands for no entry. -/
theorem not_keyed_of_find? (h : find? entries key = none) : ¬ Keyed entries key e := by
  obtain ⟨hid, hname⟩ := Option.or_eq_none_iff.1 h
  rw [List.find?_eq_none] at hid hname
  rintro ⟨he, hkey | ⟨-, hkey⟩⟩
  · exact hid e he (beq_iff_eq.2 hkey)
  · exact hname e he (beq_iff_eq.2 hkey)

theorem fetch_eq_error_iff :
    fetch entries key = .error f ↔ f = .store (.notFound key) ∧ ∀ e, ¬ Keyed entries key e := by
  unfold fetch
  cases h : find? entries key with
  | some e =>
    constructor
    · intro he
      cases he
    · rintro ⟨-, hno⟩
      exact absurd (keyed_of_find? h) (hno e)
  | none =>
    constructor
    · intro he
      cases he
      exact ⟨rfl, fun e => not_keyed_of_find? h⟩
    · rintro ⟨rfl, -⟩
      rfl

theorem keyed_of_fetch (h : fetch entries key = .ok e) : Keyed entries key e := by
  unfold fetch at h
  cases hfind : find? entries key with
  | some e' =>
    rw [hfind] at h
    cases h
    exact keyed_of_find? hfind
  | none =>
    rw [hfind] at h
    cases h

/-- A key stands for one entry of a table at most. -/
theorem Keyed.unique {e' : Entry} (htable : IsTable entries) (h : Keyed entries key e)
    (h' : Keyed entries key e') : e = e' := by
  obtain ⟨he, hid | ⟨hno, hname⟩⟩ := h <;> obtain ⟨he', hid' | ⟨hno', hname'⟩⟩ := h'
  · exact List.inj_on_of_nodup_map htable.ids he he' (hid.trans hid'.symm)
  · exact absurd hid (hno' e he)
  · exact absurd hid' (hno e' he')
  · exact List.inj_on_of_nodup_map htable.names he he' (hname.trans hname'.symm)

/-- In a table the entry that a key stands for is fetched, and no other. -/
theorem fetch_eq_ok_iff (htable : IsTable entries) :
    fetch entries key = .ok e ↔ Keyed entries key e := by
  constructor
  · exact keyed_of_fetch
  · intro h
    cases hf : fetch entries key with
    | ok e' => rw [(keyed_of_fetch hf).unique htable h]
    | error f => exact absurd h ((fetch_eq_error_iff.1 hf).2 e)

/-! ### Names and content -/

theorem not_free_iff : ¬ Free entries except name ↔
    entries.any (fun e => some e.id != except && Text.lower e.name == Text.lower name) = true := by
  simp only [Free, Entry.lowered, List.any_eq_true, Bool.and_eq_true, bne_iff_ne, beq_iff_eq, ne_eq,
    not_forall, not_not, exists_prop]

/-- A name that is given is trimmed. -/
theorem checkName_cases (entries : List Entry) (name : String) (except : Option String) :
    (checkName entries name except = .ok (Text.strip name) ∧ Text.strip name ≠ "" ∧
        Free entries except (Text.strip name)) ∨
      ∃ fault, checkName entries name except = .error (.store fault) ∧
        NameFault entries except name fault := by
  simp only [checkName, String.isEmpty_iff]
  by_cases hblank : Text.strip name = ""
  · exact Or.inr ⟨.nameRequired, by rw [if_pos hblank], .blank hblank⟩
  by_cases hfree : Free entries except (Text.strip name)
  · have hnone := mt not_free_iff.2 (not_not.2 hfree)
    exact Or.inl ⟨by rw [if_neg hblank, if_neg hnone], hblank, hfree⟩
  · exact Or.inr ⟨.nameTaken, by rw [if_neg hblank, if_pos (not_free_iff.1 hfree)],
      .taken hblank hfree⟩

theorem checkContent_eq_ok_iff {content : String} :
    checkContent content = .ok () ↔ Text.isBlankText content = false := by
  unfold checkContent
  cases Text.isBlankText content <;> simp

theorem checkContent_eq_error_iff {content : String} : checkContent content = .error f ↔
    f = .store .contentRequired ∧ Text.isBlankText content = true := by
  unfold checkContent
  cases Text.isBlankText content <;> simp [eq_comm]

/-! ### Changes of a table -/

theorem isTable_nil : IsTable [] := ⟨List.nodup_nil, List.nodup_nil, by simp⟩

theorem IsTable.sublist {after : List Entry} (h : IsTable entries) (hsub : after.Sublist entries) :
    IsTable after where
  ids := h.ids.sublist (hsub.map _)
  names := h.names.sublist (hsub.map _)
  sound e he := h.sound e (hsub.subset he)

/-- A new entry at the end. -/
theorem IsTable.append (h : IsTable entries) (hid : e.id ∉ entries.map Entry.id)
    (hfree : Free entries none e.name) (hsound : e.Sound) : IsTable (entries ++ [e]) where
  ids := by
    rw [List.map_append, List.map_singleton, List.nodup_append_comm]
    exact List.nodup_cons.2 ⟨hid, h.ids⟩
  names := by
    rw [List.map_append, List.map_singleton, List.nodup_append_comm]
    refine List.nodup_cons.2 ⟨fun hmem => ?_, h.names⟩
    obtain ⟨other, hother, hname⟩ := List.mem_map.1 hmem
    exact hfree other hother (by simp) hname
  sound other hother := by
    rcases List.mem_append.1 hother with ho | ho
    · exact h.sound other ho
    · rw [List.mem_singleton.1 ho]
      exact hsound

/-- The name of an entry is free for the entry itself. -/
theorem IsTable.free_self (h : IsTable entries) (he : e ∈ entries) :
    Free entries (some e.id) e.name := by
  intro other hother hne hname
  exact hne (congrArg some (congrArg Entry.id (List.inj_on_of_nodup_map h.names hother he hname)))

/-- The other entries of a table have other identifiers. -/
theorem IsTable.id_ne (h : IsTable (front ++ old :: back)) {other : Entry}
    (hother : other ∈ front ++ back) : other.id ≠ old.id := by
  have hperm : (front ++ old :: back).Perm (old :: (front ++ back)) := List.perm_middle
  have hids := (List.nodup_cons.1 ((hperm.map Entry.id).nodup_iff.1 h.ids)).1
  intro he
  rw [← he] at hids
  exact hids (List.mem_map_of_mem hother)

/-- An entry in the place of another one with the same identifier. -/
theorem IsTable.replace (h : IsTable (front ++ old :: back)) (hid : e.id = old.id)
    (hfree : Free (front ++ old :: back) (some old.id) e.name) (hsound : e.Sound) :
    IsTable (front ++ e :: back) := by
  have hsub : (front ++ back).Sublist (front ++ old :: back) :=
    (List.Sublist.refl front).append (List.sublist_cons_self old back)
  have hnew : e.id ∉ (front ++ back).map Entry.id := by
    intro hmem
    obtain ⟨other, hother, he⟩ := List.mem_map.1 hmem
    exact h.id_ne hother (he.trans hid)
  have hnamed : Free (front ++ back) none e.name := fun other hother _ =>
    hfree other (hsub.subset hother) fun he => h.id_ne hother (Option.some.inj he)
  -- without the old entry this is a new entry at the end, but for the order
  have hlast := (h.sublist hsub).append hnew hnamed hsound
  have hperm : (front ++ e :: back).Perm (front ++ back ++ [e]) :=
    List.perm_middle.trans (List.perm_append_singleton e (front ++ back)).symm
  exact ⟨(hperm.map _).nodup_iff.2 hlast.ids, (hperm.map _).nodup_iff.2 hlast.names,
    fun other hother => hlast.sound other (hperm.subset hother)⟩

theorem replace_eq (h : IsTable (front ++ old :: back)) (hid : e.id = old.id) :
    replace (front ++ old :: back) e = front ++ e :: back := by
  have hkeep : ∀ part : List Entry, (∀ other ∈ part, other ∈ front ++ back) →
      part.map (fun other => if other.id == e.id then e else other) = part := by
    intro part hpart
    refine (List.map_congr_left fun other hother => ?_).trans part.map_id
    have hne := h.id_ne (hpart other hother)
    rw [← hid] at hne
    rw [if_neg (by simpa using hne), id]
  rw [Library.replace, List.map_append, List.map_cons, hkeep front (by simp +contextual),
    hkeep back (by simp +contextual), if_pos (by simp [hid])]

/-- An entry has the identifier of one of the targets only if it is one of them. -/
theorem id_mem_map_iff {targets : List Entry} (hids : (entries.map Entry.id).Nodup)
    (htargets : ∀ target ∈ targets, target ∈ entries) (he : e ∈ entries) :
    e.id ∈ targets.map Entry.id ↔ e ∈ targets := by
  constructor
  · intro hmem
    obtain ⟨target, htarget, hid⟩ := List.mem_map.1 hmem
    rwa [← List.inj_on_of_nodup_map hids (htargets target htarget) he hid]
  · exact List.mem_map_of_mem

/-- Entries with the identifiers of some of them. -/
theorem without_eq {targets : List Entry} (hids : (entries.map Entry.id).Nodup)
    (htargets : ∀ target ∈ targets, target ∈ entries) :
    without entries (targets.map Entry.id).eraseDups =
      entries.filter fun e => !targets.contains e := by
  refine List.filter_congr fun e he => ?_
  have hiff : e.id ∈ (targets.map Entry.id).eraseDups ↔ e ∈ targets :=
    List.mem_eraseDups.trans (id_mem_map_iff hids htargets he)
  by_cases hmem : e ∈ targets
  · simp [hmem, hiff.2 hmem]
  · simp [hmem, mt hiff.1 hmem]

end

end Scaffold.Library
