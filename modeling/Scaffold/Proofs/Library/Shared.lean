import Mathlib.Logic.Function.Basic
import Scaffold.Proofs.Library.Saved
import Scaffold.Proofs.Library.Table

/-!
# Stores on one file

Several stores may be open on one file. Each reads the file once, when it is opened, and each call
that answers something writes all that its store has in memory. So the file holds the list of the
store that wrote last (`leftBy`), and what others have written since that store was opened is lost.
`shared_reopens` says when nothing is lost: just when each call that writes is made through a store
that is up to date (`Done.UpToDate`).
-/

namespace Scaffold.Library
open Scaffold.Workspace

/-! ### Calls that have ended -/

/-- The call deletes templates. -/
def Call.deletes : Call → Bool
  | delete _ => true
  | create .. | update .. | duplicate .. => false

/-- A call that ended well. -/
structure Done where
  call : Call
  /-- what the caller had in memory -/
  had : List Entry
  /-- what was in the file -/
  found : List Entry
  answer : List Entry
  /-- what the caller has in memory now -/
  after : List Entry

/-- The identifiers of the templates that a call answers. -/
def Done.ids (d : Done) : List String := d.answer.map Entry.id

/-- What is in the file after some calls: a call that answers something has written all that its
caller has. -/
def leftBy (first : List Entry) (done : List Done) : List Entry :=
  done.foldl (fun left d => if d.answer.isEmpty then left else d.after) first

/-- No call has deleted a template with this identifier. -/
def Spared (done : List Done) (id : String) : Prop :=
  ∀ d ∈ done, d.call.deletes = true → id ∉ d.ids

/-- The template is as it was at first and no call has answered it, or it is as the last call that
answered it has left it. -/
def Latest (first : List Entry) (done : List Done) (e : Entry) : Prop :=
  (e ∈ first ∧ ∀ d ∈ done, e.id ∉ d.ids) ∨
    ∃ front d back, done = front ++ d :: back ∧ e ∈ d.answer ∧ ∀ d' ∈ back, e.id ∉ d'.ids

/-- A template that was there at first, or was stored, and that was not deleted, with its last
update. -/
def Stands (first : List Entry) (done : List Done) (e : Entry) : Prop :=
  Latest first done e ∧ Spared done e.id

/-- The file holds just what stands. -/
def Exact (first : List Entry) (done : List Done) : Prop :=
  ∀ e, e ∈ leftBy first done ↔ Stands first done e

/-- A call is made through a store that is up to date: but for the templates that the call answers
it has what is in the file, and the call stores none that others have deleted. -/
structure Done.UpToDate (front : List Done) (d : Done) : Prop where
  same : ∀ e, e.id ∉ d.ids → (e ∈ d.had ↔ e ∈ d.found)
  spared : d.call.deletes = false → ∀ e ∈ d.answer, Spared front e.id

/-- What is known of a call that ended well, after other calls. -/
structure Done.Follows (first : List Entry) (front : List Done) (d : Done) : Prop where
  found : d.found = leftBy first front
  after : ∀ e, e ∈ d.after ↔
    (e ∈ d.had ∧ e.id ∉ d.ids) ∨ (d.call.deletes = false ∧ e ∈ d.answer)
  fresh : d.call.isNew = true → ∀ e ∈ d.answer, Spared front e.id
  old : d.call.isNew = false → ∀ e ∈ d.answer, ∃ x ∈ d.had, x.id = e.id

/-- Calls that ended well, one after the other. -/
inductive History (first : List Entry) : List Done → Prop
  | nil : History first []
  | snoc {front : List Done} {d : Done} (h : History first front) (hd : d.Follows first front) :
    History first (front ++ [d])

section

variable {first : List Entry} {front done : List Done} {d : Done} {e : Entry} {id : String}

theorem leftBy_concat : leftBy first (front ++ [d]) =
    if d.answer.isEmpty then leftBy first front else d.after := by
  simp only [leftBy, List.foldl_append, List.foldl_cons, List.foldl_nil]

theorem spared_concat :
    Spared (front ++ [d]) id ↔ Spared front id ∧ (d.call.deletes = true → id ∉ d.ids) := by
  simp only [Spared, List.forall_mem_append, List.forall_mem_singleton]

theorem latest_concat :
    Latest first (front ++ [d]) e ↔ e ∈ d.answer ∨ Latest first front e ∧ e.id ∉ d.ids := by
  constructor
  · rintro (⟨hfirst, hall⟩ | ⟨before, d', back, hsplit, hd', hback⟩)
    · rw [List.forall_mem_append, List.forall_mem_singleton] at hall
      exact Or.inr ⟨Or.inl ⟨hfirst, hall.1⟩, hall.2⟩
    · rcases List.eq_nil_or_concat back with rfl | ⟨back, last, rfl⟩
      · obtain ⟨-, rfl⟩ := List.append_singleton_inj.1 hsplit
        exact Or.inl hd'
      · rw [List.concat_eq_append, ← List.cons_append, ← List.append_assoc] at hsplit
        obtain ⟨rfl, rfl⟩ := List.append_singleton_inj.1 hsplit
        rw [List.concat_eq_append, List.forall_mem_append, List.forall_mem_singleton] at hback
        exact Or.inr ⟨Or.inr ⟨before, d', back, rfl, hd', hback.1⟩, hback.2⟩
  · rintro (hd | ⟨⟨hfirst, hall⟩ | ⟨before, d', back, rfl, hd', hback⟩, hno⟩)
    · exact Or.inr ⟨front, d, [], rfl, hd, by simp⟩
    · refine Or.inl ⟨hfirst, ?_⟩
      rw [List.forall_mem_append, List.forall_mem_singleton]
      exact ⟨hall, hno⟩
    · refine Or.inr ⟨before, d', back ++ [d], by simp, hd', ?_⟩
      rw [List.forall_mem_append, List.forall_mem_singleton]
      exact ⟨hback, hno⟩

theorem mem_ids (h : e ∈ d.answer) : e.id ∈ d.ids := List.mem_map_of_mem h

theorem stands_concat : Stands first (front ++ [d]) e ↔
    (Stands first front e ∧ e.id ∉ d.ids) ∨
      (d.call.deletes = false ∧ e ∈ d.answer ∧ Spared front e.id) := by
  rw [Stands, Stands, latest_concat, spared_concat]
  by_cases hid : e.id ∈ d.ids
  · cases hdel : d.call.deletes <;> simp [hid]
  · have he : e ∉ d.answer := fun he => hid (mem_ids he)
    simp [hid, he]

theorem exact_nil : Exact first [] := by
  simp [Exact, leftBy, Stands, Latest, Spared]

/-- A store is up to date just when what its call leaves is what the call would leave of the file,
with none stored that others have deleted. -/
theorem Done.upToDate_iff : d.UpToDate front ↔ ∀ e,
    ((e ∈ d.had ∧ e.id ∉ d.ids) ∨ (d.call.deletes = false ∧ e ∈ d.answer) ↔
      (e ∈ d.found ∧ e.id ∉ d.ids) ∨
        (d.call.deletes = false ∧ e ∈ d.answer ∧ Spared front e.id)) := by
  constructor
  · rintro ⟨hsame, hspared⟩ e
    by_cases hid : e.id ∈ d.ids
    · simp only [hid, not_true_eq_false, and_false, false_or]
      exact and_congr_right fun hdel => ⟨fun he => ⟨he, hspared hdel e he⟩, And.left⟩
    · have he : e ∉ d.answer := fun he => hid (mem_ids he)
      simpa [hid, he] using hsame e hid
  · intro h
    refine ⟨fun e hid => ?_, fun hdel e he => ?_⟩
    · have he : e ∉ d.answer := fun he => hid (mem_ids he)
      simpa [hid, he] using h e
    · have hid := mem_ids he
      simpa [hid, he, hdel] using h e

theorem exact_concat_of_nil (hnil : d.answer = []) (h : Exact first front) :
    Exact first (front ++ [d]) := by
  have hids : d.ids = [] := by rw [Done.ids, hnil, List.map_nil]
  intro e
  rw [leftBy_concat, stands_concat, hids, hnil]
  simpa using h e

theorem exact_concat_of_ne (hd : d.Follows first front) (hne : d.answer ≠ [])
    (h : Exact first front) : Exact first (front ++ [d]) ↔ d.UpToDate front := by
  have hleft : leftBy first (front ++ [d]) = d.after := by
    rw [leftBy_concat, if_neg (by simpa using hne)]
  rw [Done.upToDate_iff]
  refine forall_congr' fun e => ?_
  rw [hleft, hd.after, stands_concat, ← h e, hd.found]

/-- A call that writes keeps the file exact just when it is made through a store that is up to
date. -/
theorem exact_concat (hd : d.Follows first front) (h : Exact first front) :
    Exact first (front ++ [d]) ↔ (d.answer ≠ [] → d.UpToDate front) := by
  by_cases hnil : d.answer = []
  · exact iff_of_true (exact_concat_of_nil hnil h) fun hne => absurd hnil hne
  · rw [exact_concat_of_ne hd hnil h]
    exact ⟨fun hup _ => hup, fun hup => hup hnil⟩

/-- The file is exact at each point of a run just when each call that writes is made through a store
that is up to date. -/
theorem History.exact_iff (h : History first done) :
    (∀ front, front <+: done → Exact first front) ↔
      ∀ front d, front ++ [d] <+: done → d.answer ≠ [] → d.UpToDate front := by
  induction h with
  | nil =>
    refine iff_of_true (fun front hfront => ?_) fun front d hfront => ?_
    · rw [List.prefix_nil.1 hfront]
      exact exact_nil
    · exact absurd (List.prefix_nil.1 hfront) (by simp)
  | @snoc done last h hlast ih =>
    have hexact : (∀ front, front <+: done ++ [last] → Exact first front) ↔
        (∀ front, front <+: done → Exact first front) ∧ Exact first (done ++ [last]) := by
      simp only [List.prefix_concat_iff, or_imp, forall_and, forall_eq]
      exact and_comm
    have hup : (∀ front d, front ++ [d] <+: done ++ [last] → d.answer ≠ [] → d.UpToDate front) ↔
        (∀ front d, front ++ [d] <+: done → d.answer ≠ [] → d.UpToDate front) ∧
          (last.answer ≠ [] → last.UpToDate done) := by
      constructor
      · intro hall
        exact ⟨fun front d hd => hall front d (hd.trans (List.prefix_append _ _)),
          hall done last (List.prefix_refl _)⟩
      · rintro ⟨hall, hlast⟩ front d hfront
        rcases List.prefix_concat_iff.1 hfront with heq | hfront
        · obtain ⟨rfl, rfl⟩ := List.append_singleton_inj.1 heq
          exact hlast
        · exact hall front d hfront
    rw [hexact, hup, ← ih]
    exact and_congr_right fun hall => exact_concat hlast (hall done (List.prefix_refl _))

/-- The file is exact when each call that writes is made through a store that has what is in it. -/
theorem History.exact_of_same (h : History first done)
    (hsame : ∀ d ∈ done, d.answer ≠ [] → ∀ e, e ∈ d.had ↔ e ∈ d.found) : Exact first done := by
  induction h with
  | nil => exact exact_nil
  | @snoc front d h hd ih =>
    rw [List.forall_mem_append, List.forall_mem_singleton] at hsame
    have hfront := ih hsame.1
    refine (exact_concat hd hfront).2 fun hne => ⟨fun e _ => hsame.2 hne e, fun _ e he => ?_⟩
    cases hnew : d.call.isNew with
    | true => exact hd.fresh hnew e he
    | false =>
      -- what is updated is in the file, so it stands
      obtain ⟨x, hx, hid⟩ := hd.old hnew e he
      rw [hsame.2 hne, hd.found, hfront] at hx
      exact hid ▸ hx.2

end

/-! ### What one call leaves -/

section

variable {d : Draw} {before : List Entry} {call : Call} {e : Effect}

/-- What a call leaves: the templates that it does not answer, and those that it stores. -/
theorem Does.mem_after (h : Does d before call e) (htable : IsTable before)
    (hfresh : call.isNew = true → d.id ∉ before.map Entry.id) (x : Entry) :
    x ∈ e.after ↔ (x ∈ before ∧ x.id ∉ e.answer.map Entry.id) ∨
      (call.deletes = false ∧ x ∈ e.answer) := by
  have hnew (new : Entry) (hid : new.id ∉ before.map Entry.id) :
      x ∈ before ++ [new] ↔ (x ∈ before ∧ x.id ∉ [new].map Entry.id) ∨ x ∈ [new] := by
    have hother (hx : x ∈ before) : x.id ≠ new.id := fun he => hid (he ▸ List.mem_map_of_mem hx)
    rw [List.mem_append, List.map_singleton, List.mem_singleton, List.mem_singleton,
      and_iff_left_of_imp hother]
  cases h with
  | create hname hcontent => simpa [Call.deletes] using hnew _ (hfresh rfl)
  | duplicate hkey hname => simpa [Call.deletes] using hnew _ (hfresh rfl)
  | @update key changes front back old hsplit hkey hname hcontent =>
    subst hsplit
    have hid : (changes.onto old d.time).id = old.id := rfl
    have hother (hx : x ∈ front ++ back) : x.id ≠ old.id := htable.id_ne hx
    simp only [List.mem_append] at hother
    simp only [List.mem_append, List.mem_cons, List.map_cons, List.map_nil, hid, Call.deletes,
      true_and, List.not_mem_nil, or_false]
    constructor
    · rintro (hx | rfl | hx)
      · exact Or.inl ⟨Or.inl hx, hother (Or.inl hx)⟩
      · exact Or.inr rfl
      · exact Or.inl ⟨Or.inr (Or.inr hx), hother (Or.inr hx)⟩
    · rintro (⟨hx | rfl | hx, hne⟩ | rfl)
      · exact Or.inl hx
      · exact absurd rfl hne
      · exact Or.inr (Or.inr hx)
      · exact Or.inr (Or.inl rfl)
  | @delete keys targets hkeys =>
    simp only [List.mem_filter, Bool.not_eq_true', Call.deletes, Bool.true_eq_false, false_and,
      or_false]
    refine and_congr_right fun hx => ?_
    rw [id_mem_map_iff htable.ids (mem_of_keyed hkeys) hx]
    simp

/-- A new template has the identifier that was drawn. -/
theorem Does.id_answer (h : Does d before call e) (hnew : call.isNew = true) :
    ∀ x ∈ e.answer, x.id = d.id := by
  cases h with
  | create => simp [newEntry]
  | duplicate => simp [newEntry]
  | update => cases hnew
  | delete => cases hnew

/-- Another call answers templates that the caller had. -/
theorem Does.exists_had (h : Does d before call e) (hold : call.isNew = false) :
    ∀ x ∈ e.answer, ∃ y ∈ before, y.id = x.id := by
  cases h with
  | create => cases hold
  | duplicate => cases hold
  | @update key changes front back old hsplit =>
    intro x hx
    rw [List.mem_singleton.1 hx]
    exact ⟨old, by simp [hsplit], rfl⟩
  | delete hkeys => exact fun x hx => ⟨x, mem_of_keyed hkeys x hx, rfl⟩

end

section

variable {ρ : Type} [Log.Journal ρ] [Clock ρ] {cwd : Here} {l : Location} {s s' : Store}
  {w w' : World Node ρ} {call : Call} {answer : List Entry}

omit [Log.Journal ρ] [Clock ρ] in
theorem single_ne_nil (x : (Store × Except Failure Entry) × World Node ρ) :
    (single x).1.2 ≠ .ok [] := by
  obtain ⟨⟨s, f | e⟩, w⟩ := x
  · simp [single, Except.map]
  · simp [single, Except.map]

/-- A call that answers nothing has done nothing. -/
theorem run_of_nil (h : call.run cwd s w = ((s', .ok []), w')) : s' = s ∧ w' = w := by
  have hanswer := congrArg (fun x => x.1.2) h
  cases call with
  | create name content description => exact absurd hanswer (single_ne_nil _)
  | update key changes => exact absurd hanswer (single_ne_nil _)
  | duplicate key name => exact absurd hanswer (single_ne_nil _)
  | delete keys =>
    simp only [Call.run, Store.delete] at h
    cases hkeys : keys.mapM (fetch s.entries) with
    | error f =>
      rw [hkeys] at h
      cases h
    | ok targets =>
      cases targets with
      | nil =>
        rw [hkeys] at h
        cases h
        exact ⟨rfl, rfl⟩
      | cons target targets =>
        have hids : ((target :: targets).map Entry.id).eraseDups.isEmpty = false := by
          rw [List.map_cons, List.eraseDups_cons, List.isEmpty_cons]
        simp only [hkeys] at h
        generalize ((target :: targets).map Entry.id).eraseDups = ids at h hids
        simp only [hids, Bool.false_eq_true, if_false] at h
        rcases commit_apply cwd s w (without s.entries ids) (target :: targets)
          s!"Deleted {ids.length} template(s)" with ⟨top, -, hc⟩ | ⟨fault, top, -, hc⟩ <;>
          rw [hc] at h <;> cases h

/-- One call of a store whose file holds a table: file and store are tables again, and if anything
is answered the file holds what the store has. -/
theorem run_leaves {v : Option Json} (hroot : w.files.bareAt? [] = some .directory)
    (hread : readStore cwd s.location w.files = .ok v) (htable : IsTable s.entries)
    (hfresh : call.isNew = true → (draw w.rest).id ∉ s.entries.map Entry.id)
    (hrun : call.run cwd s w = ((s', .ok answer), w')) :
    s'.location = s.location ∧ IsTable s'.entries ∧ w'.files.bareAt? [] = some .directory ∧
      (∃ v', readStore cwd s.location w'.files = .ok v' ∧
        entriesOf v' = if answer.isEmpty then entriesOf v else s'.entries) ∧
      Does (draw w.rest) s.entries call ⟨answer, s'.entries⟩ := by
  have hends := call_refines cwd htable call w
  rw [hrun] at hends
  cases hends with
  | idle hdoes => exact ⟨rfl, htable, hroot, ⟨v, hread, rfl⟩, hdoes⟩
  | @written e top r hdoes hw =>
    obtain ⟨hnow, hroot'⟩ :=
      readStore_of_written hroot (hasNul_of_readStore hread) (plain_toJson _) hw
    refine ⟨rfl, hdoes.isTable htable hfresh, hroot', ?_, hdoes⟩
    -- a deletion of no keys comes to an end as well, and leaves the file as it was
    by_cases hnil : e.answer = []
    · rw [hnil] at hrun
      obtain ⟨hs, rfl⟩ := run_of_nil hrun
      exact ⟨v, hread, by rw [hnil]; rfl⟩
    · exact ⟨_, hnow, by rw [if_neg (by simpa using hnil), entriesOf_toJson]⟩

end

/-! ### Several stores -/

/-- Stores that are opened on one file, and calls that are made through them, in any order; the
calls are those that ended well, and new templates draw new identifiers. At first the file holds the
entries `first`. All but the files may change between the calls. -/
inductive Shared {ρ ι : Type} [Log.Journal ρ] [Clock ρ] [DecidableEq ι] (cwd : Here) (l : Location)
    (first : List Entry) : (ι → Option Store) → List Done → World Node ρ → Prop
  | start {w : World Node ρ} {v : Option Json} (hroot : w.files.bareAt? [] = some .directory)
    (hread : readStore cwd l w.files = .ok v) (hfirst : entriesOf v = first)
    (htable : IsTable first) : Shared cwd l first (fun _ => none) [] w
  | opened {stores : ι → Option Store} {done : List Done} {s : Store} {w w' : World Node ρ}
    (h : Shared cwd l first stores done w) (i : ι) (hload : Store.load cwd l w = (.ok s, w')) :
    Shared cwd l first (Function.update stores i (some s)) done w'
  | called {stores : ι → Option Store} {done : List Done} {s s' : Store} {w w' : World Node ρ}
    {v : Option Json} {answer : List Entry} (h : Shared cwd l first stores done w) {i : ι}
    (hs : stores i = some s) (call : Call) (hread : readStore cwd l w.files = .ok v)
    (hfresh : call.isNew = true → (draw w.rest).id ∉ s.entries.map Entry.id)
    (hunused : call.isNew = true → ∀ d ∈ done, (draw w.rest).id ∉ d.ids)
    (hrun : call.run cwd s w = ((s', .ok answer), w')) :
    Shared cwd l first (Function.update stores i (some s'))
      (done ++ [⟨call, s.entries, entriesOf v, answer, s'.entries⟩]) w'
  | waited {stores : ι → Option Store} {done : List Done} {w : World Node ρ}
    (h : Shared cwd l first stores done w) (r : ρ) : Shared cwd l first stores done ⟨w.files, r⟩

/-- What holds at each point of such a run. -/
structure Consistent {ρ ι : Type} (cwd : Here) (l : Location) (first : List Entry)
    (stores : ι → Option Store) (done : List Done) (w : World Node ρ) : Prop where
  root : w.files.bareAt? [] = some .directory
  read : ∃ v, readStore cwd l w.files = .ok v ∧ entriesOf v = leftBy first done
  table : IsTable (leftBy first done)
  stores : ∀ i s, stores i = some s → s.location = l ∧ IsTable s.entries
  history : History first done

section

variable {ρ ι : Type} [Log.Journal ρ] [Clock ρ] [DecidableEq ι] {cwd : Here} {l : Location}
  {first : List Entry} {stores : ι → Option Store} {done : List Done} {s s' : Store}
  {w w' : World Node ρ}

omit [Log.Journal ρ] [Clock ρ] in
theorem stores_update (h : ∀ i s, stores i = some s → s.location = l ∧ IsTable s.entries) (i : ι)
    (hlocation : s.location = l) (htable : IsTable s.entries) :
    ∀ j t, Function.update stores i (some s) j = some t → t.location = l ∧ IsTable t.entries := by
  intro j t ht
  by_cases hj : j = i
  · subst hj
    rw [Function.update_self] at ht
    cases ht
    exact ⟨hlocation, htable⟩
  · rw [Function.update_of_ne hj] at ht
    exact h j t ht

omit [Clock ρ] in
theorem Consistent.opened (h : Consistent cwd l first stores done w) (i : ι)
    (hload : Store.load cwd l w = (.ok s, w')) :
    Consistent cwd l first (Function.update stores i (some s)) done w' := by
  obtain ⟨r, happly⟩ := load_apply cwd l w
  have hfiles : w.files = w'.files := congrArg (fun x => x.2.files) (happly.symm.trans hload)
  obtain ⟨v, hread, hleft⟩ := h.read
  obtain ⟨v', hread', rfl⟩ := load_eq_ok_iff.1 (congrArg Prod.fst hload)
  rw [hread] at hread'
  cases hread'
  exact ⟨hfiles ▸ h.root, ⟨v, hfiles ▸ hread, hleft⟩, h.table,
    stores_update h.stores i rfl (hleft ▸ h.table), h.history⟩

theorem Consistent.called (h : Consistent cwd l first stores done w) {i : ι}
    (hs : stores i = some s) {call : Call} {v : Option Json} {answer : List Entry}
    (hread : readStore cwd l w.files = .ok v)
    (hfresh : call.isNew = true → (draw w.rest).id ∉ s.entries.map Entry.id)
    (hunused : call.isNew = true → ∀ d ∈ done, (draw w.rest).id ∉ d.ids)
    (hrun : call.run cwd s w = ((s', .ok answer), w')) :
    Consistent cwd l first (Function.update stores i (some s'))
      (done ++ [⟨call, s.entries, entriesOf v, answer, s'.entries⟩]) w' := by
  obtain ⟨rfl, htable⟩ := h.stores i s hs
  have hleft : entriesOf v = leftBy first done := by
    obtain ⟨v', hread', hleft⟩ := h.read
    rw [hread] at hread'
    cases hread'
    exact hleft
  obtain ⟨hlocation, htable', hroot, ⟨v', hread', hnow⟩, hdoes⟩ :=
    run_leaves h.root hread htable hfresh hrun
  have hleft' : entriesOf v' =
      leftBy first (done ++ [⟨call, s.entries, entriesOf v, answer, s'.entries⟩]) := by
    rw [hnow, leftBy_concat, hleft]
  refine ⟨hroot, ⟨v', hread', hleft'⟩, ?_, stores_update h.stores i hlocation htable',
    h.history.snoc ⟨hleft, hdoes.mem_after htable hfresh, fun hnew e he => ?_,
      hdoes.exists_had⟩⟩
  · rw [leftBy_concat]
    split
    · exact h.table
    · exact htable'
  · intro d hd _
    rw [hdoes.id_answer hnew e he]
    exact hunused hnew d hd

theorem Shared.consistent (h : Shared cwd l first stores done w) :
    Consistent cwd l first stores done w := by
  induction h with
  | start hroot hread hfirst htable =>
    exact ⟨hroot, ⟨_, hread, hfirst⟩, htable, by simp, .nil⟩
  | opened _ i hload ih => exact ih.opened i hload
  | called _ hs call hread hfresh hunused hrun ih => exact ih.called hs hread hfresh hunused hrun
  | waited _ r ih => exact ⟨ih.root, ih.read, ih.table, ih.stores, ih.history⟩

omit [Clock ρ] [DecidableEq ι] in
/-- A store that is opened afterwards has what the file holds. -/
theorem Consistent.load (h : Consistent cwd l first stores done w) :
    ∃ w', Store.load cwd l w = (.ok ⟨l, leftBy first done⟩, w') ∧ w'.files = w.files := by
  obtain ⟨v, hread, hleft⟩ := h.read
  obtain ⟨r, hload⟩ := load_apply cwd l w
  rw [hread] at hload
  exact ⟨⟨w.files, r⟩, by rw [hload, ← hleft]; rfl, rfl⟩

/-- However calls through several stores on one file are interleaved, a store that is opened
afterwards has what the store has that wrote last, a table of templates whose names are told apart
without regard to case. At each point it has just the templates that stand, those that were stored
and not deleted with their last updates, if and only if each call that writes was made through a
store that was up to date. This is so when each such call is made while its store has what is in the
file. -/
theorem shared_reopens (h : Shared cwd l first stores done w) :
    (∃ w', Store.load cwd l w = (.ok ⟨l, leftBy first done⟩, w') ∧ w'.files = w.files) ∧
    IsTable (leftBy first done) ∧
    ((∀ front, front <+: done → Exact first front) ↔
      ∀ front d, front ++ [d] <+: done → d.answer ≠ [] → d.UpToDate front) ∧
    ((∀ d ∈ done, d.answer ≠ [] → ∀ e, e ∈ d.had ↔ e ∈ d.found) → Exact first done) := by
  have hinv := h.consistent
  exact ⟨hinv.load, hinv.table, hinv.history.exact_iff, hinv.history.exact_of_same⟩

end

/-! ### Two stores -/

/-- What is reported by the time of the second call. -/
def reported : List Log.Record := [⟨.info, "templates", "Saved template 'A'"⟩]

/-- The template that is stored then. -/
def secondEntry : Entry :=
  let d := draw reported
  ⟨d.id, "B", "", "text", d.time, d.time⟩

def firstDone : Done := ⟨.create "A" "text" "", [], [], [firstEntry], [firstEntry]⟩

/-- The second call, through a store with these templates. -/
def secondDone (had : List Entry) : Done :=
  ⟨.create "B" "text" "", had, [firstEntry], [secondEntry], had ++ [secondEntry]⟩

/-- The tree after the first call. -/
def firstFloor : World Node (List Log.Record) := ⟨topTree (fileText [firstEntry]), reported⟩

theorem readStore_firstFloor :
    readStore (.top []) topLocation firstFloor.files = .ok (some (toJson [firstEntry])) :=
  (readStore_of_written rfl hasNul_topLocation (plain_toJson _) (writeText_empty _)).1

section

variable {stores : Bool → Option Store}

theorem shared_first (h : Shared (.top []) topLocation [] stores []
    (⟨Node.empty, []⟩ : World Node (List Log.Record)))
    (hs : stores false = some ⟨topLocation, []⟩) :
    Shared (.top []) topLocation []
      (Function.update stores false (some ⟨topLocation, [firstEntry]⟩)) [firstDone] firstFloor := by
  obtain ⟨r, hrun⟩ := run_of_written (s := ⟨topLocation, []⟩) (w := ⟨Node.empty, []⟩)
    effect_firstEntry (List.cons_ne_nil _ _) (writeText_empty _)
  exact (h.called hs _ readStore_empty (by simp) (by simp) hrun).waited reported

theorem shared_second (h : Shared (.top []) topLocation [] stores [firstDone] firstFloor)
    {had : List Entry} (hs : stores true = some ⟨topLocation, had⟩)
    (heffect : (Call.create "B" "text" "").effect (draw reported) had =
      .ok ⟨[secondEntry], had ++ [secondEntry]⟩)
    (hfresh : (draw reported).id ∉ had.map Entry.id) :
    ∃ w : World Node (List Log.Record), Shared (.top []) topLocation []
      (Function.update stores true (some ⟨topLocation, had ++ [secondEntry]⟩))
      [firstDone, secondDone had] w := by
  obtain ⟨r, hrun⟩ := run_of_written (s := ⟨topLocation, had⟩) (w := firstFloor) heffect
    (List.cons_ne_nil _ _) (writeText_topTree _ _)
  have hunused : (draw reported).id ∉ firstDone.ids := by decide +kernel
  have hcalled := h.called hs _ readStore_firstFloor (fun _ => hfresh)
    (fun _ => List.forall_mem_singleton.2 hunused) hrun
  rw [entriesOf_toJson] at hcalled
  exact ⟨_, hcalled⟩

end

theorem shared_opened : Shared (.top []) topLocation []
    (Function.update (fun _ => none) false (some ⟨topLocation, []⟩) : Bool → Option Store) []
    (⟨Node.empty, []⟩ : World Node (List Log.Record)) :=
  (Shared.start (v := none) rfl readStore_empty rfl isTable_nil).opened false
    (load_of_missing readStore_empty)

/-- Nothing is lost when the second store is opened after the first call. -/
theorem stores_in_turn :
    ∃ (stores : Bool → Option Store) (w : World Node (List Log.Record)),
      Shared (.top []) topLocation [] stores [firstDone, secondDone [firstEntry]] w ∧
        (∃ w', Store.load (.top []) topLocation w =
          (.ok ⟨topLocation, [firstEntry, secondEntry]⟩, w')) ∧
        Exact [] [firstDone, secondDone [firstEntry]] := by
  have hfirst := shared_first shared_opened (Function.update_self ..)
  obtain ⟨w', hload, hfiles⟩ := hfirst.consistent.load
  have hleft : leftBy [] [firstDone] = [firstEntry] := rfl
  rw [hleft] at hload
  have hopened := (hfirst.opened true hload).waited reported
  have hfloor : (⟨w'.files, reported⟩ : World Node (List Log.Record)) = firstFloor := by
    rw [hfiles]
    rfl
  rw [hfloor] at hopened
  obtain ⟨w, hsecond⟩ := shared_second hopened (Function.update_self ..) rfl (by decide +kernel)
  obtain ⟨⟨w'', hreopened, -⟩, -, -, hexact⟩ := shared_reopens hsecond
  refine ⟨_, w, hsecond, ⟨w'', hreopened⟩, hexact ?_⟩
  simp [firstDone, secondDone]

/-- The first template is lost when both stores are opened before the calls. -/
theorem overlapping_stores_lose :
    ∃ (stores : Bool → Option Store) (w : World Node (List Log.Record)),
      Shared (.top []) topLocation [] stores [firstDone, secondDone []] w ∧
        Stands [] [firstDone, secondDone []] firstEntry ∧
        ∃ w', Store.load (.top []) topLocation w = (.ok ⟨topLocation, [secondEntry]⟩, w') ∧
          firstEntry ∉ [secondEntry] := by
  have hboth := shared_opened.opened true (load_of_missing readStore_empty)
  obtain ⟨w, hsecond⟩ := shared_second (shared_first hboth rfl) rfl rfl (by simp)
  obtain ⟨w', hload, -⟩ := hsecond.consistent.load
  have hne : firstEntry ∉ [secondEntry] := by decide +kernel
  have hids : firstEntry.id ∉ (secondDone []).ids := by decide +kernel
  refine ⟨_, w, hsecond,
    ⟨Or.inr ⟨[], firstDone, [secondDone []], rfl, by simp [firstDone], ?_⟩, ?_⟩, w', hload, hne⟩
  · exact List.forall_mem_singleton.2 hids
  · simp [Spared, firstDone, secondDone, Call.deletes]

end Scaffold.Library
