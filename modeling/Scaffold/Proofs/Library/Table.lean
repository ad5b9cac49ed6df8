import Scaffold.Proofs.Library.Call
import Scaffold.Proofs.Sequence

/-!
# The store as a table

In a store that was opened without a file, and changed by calls that draw new identifiers
(`Reached`), the templates are a table. `Does` and `Refused` say what a call does with a table and
when it is refused, without the order in which entries are looked at; `reached_refines` says that a
call of such a store ends this way.
-/

namespace Scaffold.Library
open Scaffold.Workspace

/-! ### What calls do -/

/-- The entry that a new template becomes. -/
def newEntry (d : Draw) (name content description : String) : Entry :=
  ⟨d.id, Text.strip name, Text.strip description, content, d.time, d.time⟩

/-- An entry with changes: its identifier and the time of its creation stay. -/
def Changes.onto (c : Changes) (e : Entry) (time : String) : Entry :=
  { e with
    name := (c.name.map Text.strip).getD e.name
    description := (c.description.map Text.strip).getD e.description
    content := c.content.getD e.content
    updatedAt := time }

/-- A name that may be given. -/
structure Nameable (entries : List Entry) (except : Option String) (name : String) : Prop where
  name_ne : Text.strip name ≠ ""
  free : Free entries except (Text.strip name)

/-- What a call does with a table. -/
inductive Does (d : Draw) (before : List Entry) : Call → Effect → Prop
  | create {name content description : String} (hname : Nameable before none name)
    (hcontent : Text.isBlankText content = false) :
    Does d before (.create name content description)
      ⟨[newEntry d name content description], before ++ [newEntry d name content description]⟩
  | update {key : String} {changes : Changes} {front back : List Entry} {old : Entry}
    (hsplit : before = front ++ old :: back) (hkey : Keyed before key old)
    (hname : ∀ name ∈ changes.name, Nameable before (some old.id) name)
    (hcontent : ∀ content ∈ changes.content, Text.isBlankText content = false) :
    Does d before (.update key changes)
      ⟨[changes.onto old d.time], front ++ changes.onto old d.time :: back⟩
  | delete {keys : List String} {targets : List Entry}
    (hkeys : List.Forall₂ (Keyed before) keys targets) :
    Does d before (.delete keys) ⟨targets, before.filter fun e => !targets.contains e⟩
  | duplicate {key : String} {name : Option String} {source : Entry}
    (hkey : Keyed before key source)
    (hname : Nameable before none (name.getD (source.name ++ " (Copy)"))) :
    Does d before (.duplicate key name)
      ⟨[newEntry d (name.getD (source.name ++ " (Copy)")) source.content source.description],
        before ++
          [newEntry d (name.getD (source.name ++ " (Copy)")) source.content source.description]⟩

/-- When a call is refused, and why. -/
inductive Refused (before : List Entry) : Call → StoreFault → Prop
  | create_name {name content description : String} {fault : StoreFault}
    (h : NameFault before none name fault) :
    Refused before (.create name content description) fault
  | create_content {name content description : String} (hname : Nameable before none name)
    (h : Text.isBlankText content = true) :
    Refused before (.create name content description) .contentRequired
  | update_key {key : String} {changes : Changes} (h : ∀ e, ¬ Keyed before key e) :
    Refused before (.update key changes) (.notFound key)
  | update_name {key name : String} {changes : Changes} {old : Entry} {fault : StoreFault}
    (hkey : Keyed before key old) (hname : changes.name = some name)
    (h : NameFault before (some old.id) name fault) :
    Refused before (.update key changes) fault
  | update_content {key content : String} {changes : Changes} {old : Entry}
    (hkey : Keyed before key old)
    (hname : ∀ name ∈ changes.name, Nameable before (some old.id) name)
    (hcontent : changes.content = some content) (h : Text.isBlankText content = true) :
    Refused before (.update key changes) .contentRequired
  /-- one unknown key is enough -/
  | delete_key {front back : List String} {key : String}
    (hfront : ∀ k ∈ front, ∃ e, Keyed before k e) (h : ∀ e, ¬ Keyed before key e) :
    Refused before (.delete (front ++ key :: back)) (.notFound key)
  | duplicate_key {key : String} {name : Option String} (h : ∀ e, ¬ Keyed before key e) :
    Refused before (.duplicate key name) (.notFound key)
  | duplicate_name {key : String} {name : Option String} {source : Entry} {fault : StoreFault}
    (hkey : Keyed before key source)
    (h : NameFault before none (name.getD (source.name ++ " (Copy)")) fault) :
    Refused before (.duplicate key name) fault

/-- The call stores a new entry. -/
def Call.isNew : Call → Bool
  | create .. | duplicate .. => true
  | update .. | delete _ => false

section

variable {before : List Entry} {d : Draw} {call : Call} {e : Effect}

theorem sound_newEntry {name content : String} (description : String)
    (hname : Text.strip name ≠ "") (hcontent : Text.isBlankText content = false) :
    (newEntry d name content description).Sound :=
  ⟨Text.strip_strip name, hname, Text.strip_strip description, hcontent⟩

theorem isTable_newEntry {name content : String} (description : String) (htable : IsTable before)
    (hid : d.id ∉ before.map Entry.id) (hname : Nameable before none name)
    (hcontent : Text.isBlankText content = false) :
    IsTable (before ++ [newEntry d name content description]) :=
  htable.append hid hname.free (sound_newEntry description hname.name_ne hcontent)

/-- Changes keep an entry sound, and its name free for itself. -/
theorem isTable_onto {changes : Changes} {front back : List Entry} {old : Entry} {time : String}
    (htable : IsTable (front ++ old :: back))
    (hname : ∀ name ∈ changes.name, Nameable (front ++ old :: back) (some old.id) name)
    (hcontent : ∀ content ∈ changes.content, Text.isBlankText content = false) :
    IsTable (front ++ changes.onto old time :: back) := by
  have hold : old ∈ front ++ old :: back := by simp
  have hsound := htable.sound old hold
  obtain ⟨name, description, content⟩ := changes
  have hnamed : Text.strip ((name.map Text.strip).getD old.name) =
        (name.map Text.strip).getD old.name ∧
      (name.map Text.strip).getD old.name ≠ "" ∧
      Free (front ++ old :: back) (some old.id) ((name.map Text.strip).getD old.name) := by
    cases name with
    | none => exact ⟨hsound.name_stripped, hsound.name_ne, htable.free_self hold⟩
    | some name => exact ⟨Text.strip_strip name, (hname name rfl).name_ne, (hname name rfl).free⟩
  refine htable.replace (e := Changes.onto ⟨name, description, content⟩ old time) rfl hnamed.2.2
    ⟨hnamed.1, hnamed.2.1, ?_, ?_⟩
  · cases description with
    | none => exact hsound.description_stripped
    | some description => exact Text.strip_strip description
  · cases content with
    | none => exact hsound.content_said
    | some content => exact hcontent content rfl

/-- What a call leaves of a table is a table. -/
theorem Does.isTable (h : Does d before call e) (htable : IsTable before)
    (hfresh : call.isNew = true → d.id ∉ before.map Entry.id) : IsTable e.after := by
  cases h with
  | create hname hcontent => exact isTable_newEntry _ htable (hfresh rfl) hname hcontent
  | update hsplit hkey hname hcontent =>
    subst hsplit
    exact isTable_onto htable hname hcontent
  | delete hkeys => exact htable.sublist List.filter_sublist
  | duplicate hkey hname =>
    exact isTable_newEntry _ htable (hfresh rfl) hname (htable.sound _ hkey.1).content_said

/-! ### Calls do this or are refused -/

theorem stored_cases (d : Draw) (before : List Entry) (name content description : String) :
    (stored d before name content description =
        .ok ⟨[newEntry d name content description],
          before ++ [newEntry d name content description]⟩ ∧
      Nameable before none name ∧ Text.isBlankText content = false) ∨
    (∃ fault, stored d before name content description = .error (.store fault) ∧
      NameFault before none name fault) ∨
    (stored d before name content description = .error (.store .contentRequired) ∧
      Nameable before none name ∧ Text.isBlankText content = true) := by
  unfold stored
  rcases checkName_cases before name none with ⟨h, hne, hfree⟩ | ⟨fault, h, hfault⟩
  · cases hblank : Text.isBlankText content with
    | false =>
      rw [h, checkContent_eq_ok_iff.2 hblank]
      exact Or.inl ⟨rfl, ⟨hne, hfree⟩, rfl⟩
    | true =>
      rw [h, checkContent_eq_error_iff.2 ⟨rfl, hblank⟩]
      exact Or.inr (Or.inr ⟨rfl, ⟨hne, hfree⟩, rfl⟩)
  · rw [h]
    exact Or.inr (Or.inl ⟨fault, rfl, hfault⟩)

theorem content_forM_cases (content : Option String) :
    (content.forM checkContent = .ok () ∧ ∀ c ∈ content, Text.isBlankText c = false) ∨
      ∃ c, content = some c ∧ Text.isBlankText c = true ∧
        content.forM checkContent = .error (.store .contentRequired) := by
  cases content with
  | none => exact Or.inl ⟨rfl, by simp⟩
  | some c =>
    cases hblank : Text.isBlankText c with
    | false =>
      refine Or.inl ⟨checkContent_eq_ok_iff.2 hblank, fun c' hc' => ?_⟩
      cases hc'
      exact hblank
    | true => exact Or.inr ⟨c, rfl, hblank, checkContent_eq_error_iff.2 ⟨rfl, hblank⟩⟩

/-- Changes that are checked are trimmed. -/
theorem check_cases (changes : Changes) (before : List Entry) (old : Entry) :
    (∃ checked, changes.check before old = .ok checked ∧
      (∀ time, checked.apply old time = changes.onto old time) ∧
      (∀ name ∈ changes.name, Nameable before (some old.id) name) ∧
      ∀ content ∈ changes.content, Text.isBlankText content = false) ∨
    (∃ name fault, changes.name = some name ∧ changes.check before old = .error (.store fault) ∧
      NameFault before (some old.id) name fault) ∨
    ∃ content, changes.content = some content ∧
      changes.check before old = .error (.store .contentRequired) ∧
      (∀ name ∈ changes.name, Nameable before (some old.id) name) ∧
      Text.isBlankText content = true := by
  obtain ⟨name, description, content⟩ := changes
  have hname : (name.mapM (fun name => checkName before name (some old.id)) =
        .ok (name.map Text.strip) ∧ ∀ n ∈ name, Nameable before (some old.id) n) ∨
      ∃ n fault, name = some n ∧ NameFault before (some old.id) n fault ∧
        name.mapM (fun name => checkName before name (some old.id)) = .error (.store fault) := by
    cases name with
    | none => exact Or.inl ⟨rfl, by simp⟩
    | some n =>
      rcases checkName_cases before n (some old.id) with ⟨h, hne, hfree⟩ | ⟨fault, h, hfault⟩
      · refine Or.inl ⟨?_, fun n' hn' => ?_⟩
        · simp only [Option.mapM_some, h]
          rfl
        · cases hn'
          exact ⟨hne, hfree⟩
      · refine Or.inr ⟨n, fault, rfl, hfault, ?_⟩
        simp only [Option.mapM_some, h]
        rfl
  unfold Changes.check
  rcases hname with ⟨h, hnames⟩ | ⟨n, fault, hn, hfault, h⟩
  · rcases content_forM_cases content with ⟨hc, hcontent⟩ | ⟨c, hcontent, hblank, hc⟩
    · simp only [h, hc]
      exact Or.inl ⟨_, rfl, fun time => rfl, hnames, hcontent⟩
    · simp only [h, hc]
      exact Or.inr (Or.inr ⟨c, hcontent, rfl, hnames, hblank⟩)
  · simp only [h]
    exact Or.inr (Or.inl ⟨n, fault, hn, rfl, hfault⟩)

/-- A call does something with a table or is refused. -/
def Settled (d : Draw) (before : List Entry) (call : Call) : Prop :=
  (∃ e, call.effect d before = .ok e ∧ Does d before call e) ∨
    ∃ fault, call.effect d before = .error (.store fault) ∧ Refused before call fault

theorem create_settled (name content description : String) :
    Settled d before (.create name content description) := by
  rcases stored_cases d before name content description with
    ⟨h, hname, hcontent⟩ | ⟨fault, h, hfault⟩ | ⟨h, hname, hblank⟩
  · exact Or.inl ⟨_, h, .create hname hcontent⟩
  · exact Or.inr ⟨fault, h, .create_name hfault⟩
  · exact Or.inr ⟨_, h, .create_content hname hblank⟩

theorem update_settled (htable : IsTable before) (key : String) (changes : Changes) :
    Settled d before (.update key changes) := by
  have heffect : (Call.update key changes).effect d before =
      (fetch before key >>= fun old => changes.check before old >>= fun checked =>
        pure ⟨[checked.apply old d.time], replace before (checked.apply old d.time)⟩) := rfl
  unfold Settled
  rw [heffect]
  cases hfetch : fetch before key with
  | error f =>
    obtain ⟨rfl, hno⟩ := fetch_eq_error_iff.1 hfetch
    exact Or.inr ⟨_, rfl, .update_key hno⟩
  | ok old =>
    have hkey := keyed_of_fetch hfetch
    rcases check_cases changes before old with ⟨checked, h, happly, hname, hcontent⟩ |
      ⟨name, fault, hname, h, hfault⟩ | ⟨content, hcontent, h, hname, hblank⟩
    · obtain ⟨front, back, hsplit⟩ := List.append_of_mem hkey.1
      have hreplace : replace before (changes.onto old d.time) =
          front ++ changes.onto old d.time :: back := by
        subst hsplit
        exact replace_eq htable rfl
      simp only [h, bind, Except.bind, happly, hreplace]
      exact Or.inl ⟨_, rfl, .update hsplit hkey hname hcontent⟩
    · simp only [h, bind, Except.bind]
      exact Or.inr ⟨fault, rfl, .update_name hkey hname hfault⟩
    · simp only [h, bind, Except.bind]
      exact Or.inr ⟨_, rfl, .update_content hkey hname hcontent hblank⟩

theorem mem_of_keyed {keys : List String} {targets : List Entry}
    (h : List.Forall₂ (Keyed before) keys targets) : ∀ target ∈ targets, target ∈ before := by
  induction h with
  | nil => simp
  | cons hkey _ ih =>
    intro target htarget
    rcases List.mem_cons.1 htarget with rfl | htarget
    · exact hkey.1
    · exact ih target htarget

theorem delete_settled (htable : IsTable before) (keys : List String) :
    Settled d before (.delete keys) := by
  have heffect : (Call.delete keys).effect d before =
      (keys.mapM (fetch before) >>= fun targets =>
        pure ⟨targets, without before (targets.map Entry.id).eraseDups⟩) := rfl
  unfold Settled
  rw [heffect]
  cases hkeys : keys.mapM (fetch before) with
  | error f =>
    obtain ⟨front, key, back, rfl, hfront, hkey⟩ := mapM_eq_error_iff.1 hkeys
    obtain ⟨rfl, hno⟩ := fetch_eq_error_iff.1 hkey
    refine Or.inr ⟨_, rfl, .delete_key (fun k hk => ?_) hno⟩
    obtain ⟨e, he⟩ := hfront k hk
    exact ⟨e, keyed_of_fetch he⟩
  | ok targets =>
    have hkeyed : List.Forall₂ (Keyed before) keys targets :=
      (mapM_eq_ok_iff.1 hkeys).imp fun _ _ h => keyed_of_fetch h
    simp only [bind, Except.bind, without_eq htable.ids (mem_of_keyed hkeyed)]
    exact Or.inl ⟨_, rfl, .delete hkeyed⟩

theorem duplicate_settled (htable : IsTable before) (key : String) (name : Option String) :
    Settled d before (.duplicate key name) := by
  have heffect : (Call.duplicate key name).effect d before =
      (fetch before key >>= fun source => stored d before
        (name.getD (source.name ++ " (Copy)")) source.content source.description) := rfl
  unfold Settled
  rw [heffect]
  cases hfetch : fetch before key with
  | error f =>
    obtain ⟨rfl, hno⟩ := fetch_eq_error_iff.1 hfetch
    exact Or.inr ⟨_, rfl, .duplicate_key hno⟩
  | ok source =>
    have hkey := keyed_of_fetch hfetch
    simp only [bind, Except.bind]
    rcases stored_cases d before (name.getD (source.name ++ " (Copy)")) source.content
      source.description with ⟨h, hname, -⟩ | ⟨fault, h, hfault⟩ | ⟨h, hname, hblank⟩
    · exact Or.inl ⟨_, h, .duplicate hkey hname⟩
    · exact Or.inr ⟨fault, h, .duplicate_name hkey hfault⟩
    · -- the content of a stored template says something
      have hsaid := (htable.sound source hkey.1).content_said
      rw [hblank] at hsaid
      cases hsaid

theorem call_settled (htable : IsTable before) (call : Call) : Settled d before call := by
  cases call with
  | create name content description => exact create_settled name content description
  | update key changes => exact update_settled htable key changes
  | delete keys => exact delete_settled htable keys
  | duplicate key name => exact duplicate_settled htable key name

end

/-! ### Stores -/

section

variable {ρ : Type} [Log.Journal ρ] [Clock ρ]

/-- A store that was opened when there was no file, after some calls. Each call finds files, clock
and chance as they are by then; those that store an entry draw an identifier that no entry has. -/
inductive Reached (ρ : Type) [Log.Journal ρ] [Clock ρ] (cwd : Here) (l : Location) : Store → Prop
  | opened {s : Store} {w w' : World Node ρ} (hmissing : readStore cwd l w.files = .ok none)
    (h : Store.load cwd l w = (.ok s, w')) : Reached ρ cwd l s
  | called {s : Store} (h : Reached ρ cwd l s) (call : Call) (w : World Node ρ)
    (hfresh : call.isNew = true → (draw w.rest).id ∉ s.entries.map Entry.id) :
    Reached ρ cwd l (call.run cwd s w).1.1

variable {cwd : Here} {l : Location} {s : Store}

theorem call_refines (cwd : Here) (htable : IsTable s.entries) (call : Call)
    (w : World Node ρ) :
    CallEnds cwd s w (Does (draw w.rest) s.entries call)
      (fun f => ∃ fault, f = .store fault ∧ Refused s.entries call fault) (call.run cwd s w) := by
  refine (call_ends cwd s call w).mono (fun e he => ?_) fun f hf => ?_
  · rcases call_settled (d := draw w.rest) htable call with ⟨e', h, hdoes⟩ | ⟨fault, h, -⟩
    · rw [h] at he
      cases he
      exact hdoes
    · rw [h] at he
      cases he
  · rcases call_settled (d := draw w.rest) htable call with ⟨e', h, -⟩ | ⟨fault, h, hrefused⟩
    · rw [h] at hf
      cases hf
    · rw [h] at hf
      cases hf
      exact ⟨fault, rfl, hrefused⟩

/-- One call. -/
theorem isTable_run (htable : IsTable s.entries) {call : Call} {w : World Node ρ}
    (hfresh : call.isNew = true → (draw w.rest).id ∉ s.entries.map Entry.id) :
    IsTable (call.run cwd s w).1.1.entries := by
  have hends := call_refines cwd htable call w
  generalize call.run cwd s w = x at hends
  cases hends with
  | refused _ => exact htable
  | idle _ => exact htable
  | written h _ => exact h.isTable htable hfresh
  | unwritten h _ => exact h.isTable htable hfresh

/-- All calls. -/
theorem Reached.isTable (h : Reached ρ cwd l s) : IsTable s.entries := by
  induction h with
  | opened hmissing h =>
    rw [load_of_missing hmissing] at h
    cases h
    exact isTable_nil
  | called _ call w hfresh ih => exact isTable_run ih hfresh

/-- A store that was opened without a file is a table of templates after any calls that draw new
identifiers: a key fetches the entry that it stands for, and each call does with the table what it
should or is refused. A refused call leaves entries and files as they are. -/
theorem reached_refines (h : Reached ρ cwd l s) :
    IsTable s.entries ∧
    (∀ key e, fetch s.entries key = .ok e ↔ Keyed s.entries key e) ∧
    (∀ key f, fetch s.entries key = .error f ↔
      f = .store (.notFound key) ∧ ∀ e, ¬ Keyed s.entries key e) ∧
    ∀ (call : Call) (w : World Node ρ),
      CallEnds cwd s w (Does (draw w.rest) s.entries call)
        (fun f => ∃ fault, f = .store fault ∧ Refused s.entries call fault) (call.run cwd s w) :=
  ⟨h.isTable, fun _ _ => fetch_eq_ok_iff h.isTable, fun _ _ => fetch_eq_error_iff,
    call_refines cwd h.isTable⟩

end

/-- A new store with one template. -/
def filledStore : Store :=
  ((Call.create "A" "text" "").run (.top []) newStore ⟨Node.empty, ([] : List Log.Record)⟩).1.1

theorem reached_filledStore :
    Reached (List Log.Record) (.top []) newStore.location filledStore := by
  have hopened : Reached (List Log.Record) (.top []) newStore.location newStore :=
    .opened (w := ⟨Node.empty, []⟩) readStore_newStore (load_of_missing readStore_newStore)
  refine .called hopened _ _ fun _ => ?_
  simp [newStore]

theorem filledStore_refines :
    Reached (List Log.Record) (.top []) newStore.location filledStore ∧
      IsTable filledStore.entries ∧ fetch filledStore.entries firstEntry.id = .ok firstEntry := by
  have hrefines := reached_refines reached_filledStore
  have hentries : filledStore.entries = [firstEntry] :=
    congrArg Store.entries (run_of_effect (.top []) (s := newStore)
      (w := ⟨Node.empty, ([] : List Log.Record)⟩) effect_firstEntry).1
  refine ⟨reached_filledStore, hrefines.1, (hrefines.2.1 _ _).2 ⟨?_, Or.inl rfl⟩⟩
  rw [hentries]
  exact List.mem_singleton.2 rfl

end Scaffold.Library
