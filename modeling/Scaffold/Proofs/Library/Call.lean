import Scaffold.Library.Store
import Scaffold.Proofs.Generation.Run
import Scaffold.Proofs.Library.Entry

/-!
# Calls that change a store

The four calls that change a store work alike: from the entries and what is drawn (`draw`) it
follows what a call answers and leaves, or why it is refused (`Call.effect`). A refused call touches
nothing; another one keeps the entries that it leaves in memory and then writes them
(`call_ends`), so they stay in memory when they cannot be written (`failed_call`).
-/

namespace Scaffold.Library
open Scaffold.Workspace

/-- A call that changes a store. -/
inductive Call
  | create (name content description : String)
  | update (key : String) (changes : Changes)
  | delete (keys : List String)
  | duplicate (key : String) (name : Option String)

/-- What a call draws: the time, and an identifier. -/
structure Draw where
  time : String
  id : String

/-- What a call answers, and the entries that it leaves. -/
structure Effect where
  answer : List Entry
  after : List Entry

/-- A new entry at the end. -/
def stored (d : Draw) (entries : List Entry) (name content description : String) :
    Except Failure Effect := do
  let name ← checkName entries name none
  checkContent content
  let e : Entry := ⟨d.id, name, Text.strip description, content, d.time, d.time⟩
  return ⟨[e], entries ++ [e]⟩

/-- What a call does with entries, or why it is refused. -/
def Call.effect (d : Draw) (entries : List Entry) : Call → Except Failure Effect
  | create name content description => stored d entries name content description
  | update key changes => do
    let current ← fetch entries key
    let changes ← changes.check entries current
    let e := changes.apply current d.time
    return ⟨[e], replace entries e⟩
  | delete keys => do
    let targets ← keys.mapM (fetch entries)
    return ⟨targets, without entries (targets.map Entry.id).eraseDups⟩
  | duplicate key name => do
    let source ← fetch entries key
    stored d entries (name.getD (source.name ++ " (Copy)")) source.content source.description

/-- The text of a store's file. -/
def fileText (entries : List Entry) : String := Json.print .file (toJson entries)

section

variable {ρ : Type} {cwd : Here} {s : Store} {w : World Node ρ}

/-- How a call ends that does something or is refused: a refused call touches nothing; else what it
leaves is kept in memory, and written unless the system refuses that. -/
inductive CallEnds (cwd : Here) (s : Store) (w : World Node ρ) (does : Effect → Prop)
    (refuses : Failure → Prop) : (Store × Except Failure (List Entry)) × World Node ρ → Prop
  | refused {f : Failure} (h : refuses f) : CallEnds cwd s w does refuses ((s, .error f), w)
  /-- nothing is to be done -/
  | idle (h : does ⟨[], s.entries⟩) : CallEnds cwd s w does refuses ((s, .ok []), w)
  | written {e : Effect} {top : Node} {r : ρ} (h : does e)
    (hw : writeText cwd s.location (fileText e.after) w.files = (.ok (), top)) :
    CallEnds cwd s w does refuses ((⟨s.location, e.after⟩, .ok e.answer), ⟨top, r⟩)
  | unwritten {e : Effect} {fault : SystemFault} {top : Node} {r : ρ} (h : does e)
    (hw : writeText cwd s.location (fileText e.after) w.files = (.error fault, top)) :
    CallEnds cwd s w does refuses ((⟨s.location, e.after⟩,
      .error (.store (.unwritable s.location.text fault))), ⟨top, r⟩)

theorem CallEnds.mono {does does' : Effect → Prop}
    {refuses refuses' : Failure → Prop} {x : (Store × Except Failure (List Entry)) × World Node ρ}
    (h : CallEnds cwd s w does refuses x) (hdoes : ∀ e, does e → does' e)
    (hrefuses : ∀ f, refuses f → refuses' f) : CallEnds cwd s w does' refuses' x := by
  cases h with
  | refused h => exact .refused (hrefuses _ h)
  | idle h => exact .idle (hdoes _ h)
  | written h hw => exact .written (hdoes _ h) hw
  | unwritten h hw => exact .unwritten (hdoes _ h) hw

/-- Changed entries stay in memory, whether they are written or not. -/
theorem commit_apply [Log.Journal ρ] {α : Type} (cwd : Here) (s : Store) (w : World Node ρ)
    (entries : List Entry) (result : α) (report : String) :
    (∃ top, writeText cwd s.location (fileText entries) w.files = (.ok (), top) ∧
        s.commit cwd entries result report w = ((⟨s.location, entries⟩, .ok result),
          ⟨top, Log.Journal.add ⟨.info, "templates", report⟩ w.rest⟩)) ∨
      ∃ fault top, writeText cwd s.location (fileText entries) w.files = (.error fault, top) ∧
        s.commit cwd entries result report w = ((⟨s.location, entries⟩,
          .error (.store (.unwritable s.location.text fault))), ⟨top, w.rest⟩) := by
  rcases h : writeText cwd s.location (fileText entries) w.files with ⟨fault | ⟨⟩, top⟩
  · refine Or.inr ⟨fault, top, rfl, ?_⟩
    rw [fileText] at h
    simp only [Store.commit, Store.persist, bind, StateT.bind, World.onFiles, h]
    rfl
  · refine Or.inl ⟨top, rfl, ?_⟩
    rw [fileText] at h
    simp only [Store.commit, Store.persist, bind, StateT.bind, World.onFiles, h]
    rfl

end

section

variable {ρ : Type} [Log.Journal ρ] [Clock ρ]

/-- What is drawn next. -/
def draw (r : ρ) : Draw :=
  let (first, r) := Clock.now r
  let (second, r) := Clock.now r
  ⟨dateText first, identifier second (Clock.chance r).1⟩

/-- An answer of one entry. -/
def single (x : (Store × Except Failure Entry) × World Node ρ) :
    (Store × Except Failure (List Entry)) × World Node ρ :=
  ((x.1.1, x.1.2.map fun e => [e]), x.2)

/-- Make a call. -/
def Call.run (cwd : Here) (s : Store) (call : Call) (w : World Node ρ) :
    (Store × Except Failure (List Entry)) × World Node ρ :=
  match call with
  | create name content description => single (s.create cwd name content description w)
  | update key changes => single (s.update cwd key changes w)
  | delete keys => s.delete cwd keys w
  | duplicate key name => single (s.duplicate cwd key name w)

/-- A call ends as its effect says. -/
def CallEndsWith (cwd : Here) (s : Store) (call : Call) (w : World Node ρ)
    (x : (Store × Except Failure (List Entry)) × World Node ρ) : Prop :=
  CallEnds cwd s w (fun e => call.effect (draw w.rest) s.entries = .ok e)
    (fun f => call.effect (draw w.rest) s.entries = .error f) x

variable {cwd : Here} {s : Store} {w : World Node ρ} {call : Call} {after : List Entry}
  {report : String} {r : ρ}

theorem callEnds_of_commit {answer : List Entry}
    (h : call.effect (draw w.rest) s.entries = .ok ⟨answer, after⟩) :
    CallEndsWith cwd s call w (s.commit cwd after answer report ⟨w.files, r⟩) := by
  rcases commit_apply cwd s ⟨w.files, r⟩ after answer report with
    ⟨top, hw, hc⟩ | ⟨fault, top, hw, hc⟩ <;> rw [hc]
  · exact CallEnds.written (e := ⟨answer, after⟩) h hw
  · exact CallEnds.unwritten (e := ⟨answer, after⟩) h hw

theorem callEnds_of_single {new : Entry}
    (h : call.effect (draw w.rest) s.entries = .ok ⟨[new], after⟩) :
    CallEndsWith cwd s call w (single (s.commit cwd after new report ⟨w.files, r⟩)) := by
  rcases commit_apply cwd s ⟨w.files, r⟩ after new report with
    ⟨top, hw, hc⟩ | ⟨fault, top, hw, hc⟩ <;> rw [hc]
  · exact CallEnds.written (e := ⟨[new], after⟩) h hw
  · exact CallEnds.unwritten (e := ⟨[new], after⟩) h hw

/-! ### The calls -/

/-- A template that is stored, for a call that does just this. -/
theorem create_ends {name content description : String}
    (h : call.effect (draw w.rest) s.entries =
      stored (draw w.rest) s.entries name content description) :
    CallEndsWith cwd s call w (single (s.create cwd name content description w)) := by
  unfold stored at h
  unfold Store.create
  cases hname : checkName s.entries name none with
  | error f =>
    rw [hname] at h
    exact .refused h
  | ok cleaned =>
    cases hcontent : checkContent content with
    | error f =>
      rw [hname, hcontent] at h
      exact .refused h
    | ok u =>
      simp only [hname, hcontent, bind, Except.bind, pure, Except.pure] at h
      exact callEnds_of_single h

theorem update_ends (key : String) (changes : Changes) :
    CallEndsWith cwd s (.update key changes) w (single (s.update cwd key changes w)) := by
  have h : (Call.update key changes).effect (draw w.rest) s.entries =
      (fetch s.entries key >>= fun current => changes.check s.entries current >>= fun changes =>
        pure ⟨[changes.apply current (draw w.rest).time],
          replace s.entries (changes.apply current (draw w.rest).time)⟩) := rfl
  unfold Store.update
  cases hfetch : fetch s.entries key with
  | error f =>
    rw [hfetch] at h
    exact .refused h
  | ok current =>
    dsimp only
    cases hcheck : changes.check s.entries current with
    | error f =>
      simp only [hfetch, hcheck, bind, Except.bind] at h
      exact .refused h
    | ok checked =>
      simp only [hfetch, hcheck, bind, Except.bind, pure, Except.pure] at h
      exact callEnds_of_single h

theorem delete_ends (keys : List String) :
    CallEndsWith cwd s (.delete keys) w (s.delete cwd keys w) := by
  have h : (Call.delete keys).effect (draw w.rest) s.entries =
      (keys.mapM (fetch s.entries) >>= fun targets =>
        pure ⟨targets, without s.entries (targets.map Entry.id).eraseDups⟩) := rfl
  unfold Store.delete
  cases hkeys : keys.mapM (fetch s.entries) with
  | error f =>
    rw [hkeys] at h
    exact .refused h
  | ok targets =>
    simp only [hkeys, bind, Except.bind, pure, Except.pure] at h
    cases targets with
    | nil =>
      -- all entries stay, and nothing is written
      have hall : without s.entries [] = s.entries := List.filter_eq_self.2 fun e _ => rfl
      rw [List.map_nil, List.eraseDups_nil, hall] at h
      exact .idle h
    | cons target targets =>
      have hids : ((target :: targets).map Entry.id).eraseDups.isEmpty = false := by
        rw [List.map_cons, List.eraseDups_cons, List.isEmpty_cons]
      simp only [hids, Bool.false_eq_true, if_false]
      exact callEnds_of_commit h

theorem duplicate_ends (key : String) (name : Option String) :
    CallEndsWith cwd s (.duplicate key name) w (single (s.duplicate cwd key name w)) := by
  have h : (Call.duplicate key name).effect (draw w.rest) s.entries =
      (fetch s.entries key >>= fun source => stored (draw w.rest) s.entries
        (name.getD (source.name ++ " (Copy)")) source.content source.description) := rfl
  unfold Store.duplicate
  cases hfetch : fetch s.entries key with
  | error f =>
    rw [hfetch] at h
    exact .refused h
  | ok source =>
    simp only [hfetch, bind, Except.bind] at h
    exact create_ends h

/-- A call does what its effect says. -/
theorem call_ends (cwd : Here) (s : Store) (call : Call) (w : World Node ρ) :
    CallEndsWith cwd s call w (call.run cwd s w) := by
  cases call with
  | create name content description => exact create_ends rfl
  | update key changes => exact update_ends key changes
  | delete keys => exact delete_ends keys
  | duplicate key name => exact duplicate_ends key name

/-- The entries that a call leaves are in memory, whether they could be written or not. -/
theorem run_of_effect (cwd : Here) {e : Effect}
    (h : call.effect (draw w.rest) s.entries = .ok e) :
    (call.run cwd s w).1.1 = ⟨s.location, e.after⟩ ∧
      ((call.run cwd s w).1.2 = .ok e.answer ∨
        ∃ fault top, writeText cwd s.location (fileText e.after) w.files = (.error fault, top) ∧
          (call.run cwd s w).1.2 = .error (.store (.unwritable s.location.text fault))) := by
  have hends := call_ends cwd s call w
  generalize call.run cwd s w = x at hends
  cases hends with
  | refused h' =>
    rw [h] at h'
    cases h'
  | idle h' =>
    rw [h] at h'
    cases h'
    exact ⟨rfl, Or.inl rfl⟩
  | written h' _ =>
    rw [h] at h'
    cases h'
    exact ⟨rfl, Or.inl rfl⟩
  | unwritten h' hw =>
    rw [h] at h'
    cases h'
    exact ⟨rfl, Or.inr ⟨_, _, hw, rfl⟩⟩

theorem run_of_refused {f : Failure} (h : call.effect (draw w.rest) s.entries = .error f) :
    call.run cwd s w = ((s, .error f), w) := by
  have hends := call_ends cwd s call w
  generalize call.run cwd s w = x at hends
  cases hends with
  | refused h' =>
    rw [h] at h'
    cases h'
    rfl
  | idle h' =>
    rw [h] at h'
    cases h'
  | written h' _ =>
    rw [h] at h'
    cases h'
  | unwritten h' _ =>
    rw [h] at h'
    cases h'

/-- A call that answers something has written all that is in memory. -/
theorem writeText_of_answer {answer : List Entry} (h : (call.run cwd s w).1.2 = .ok answer)
    (hanswer : answer ≠ []) :
    writeText cwd s.location (fileText (call.run cwd s w).1.1.entries) w.files =
      (.ok (), (call.run cwd s w).2.files) := by
  have hends := call_ends cwd s call w
  generalize call.run cwd s w = x at h hends
  cases hends with
  | refused _ => cases h
  | idle _ =>
    cases h
    exact absurd rfl hanswer
  | written _ hw => exact hw
  | unwritten _ _ => cases h

end

/-- Two stores list, find and search the same. -/
def AnswerAlike (s s' : Store) : Prop :=
  s.entries = s'.entries ∧ (∀ key, fetch s.entries key = fetch s'.entries key) ∧
    ∀ term, search s.entries term = search s'.entries term

theorem answerAlike_iff {s s' : Store} : AnswerAlike s s' ↔ s.entries = s'.entries := by
  constructor
  · exact And.left
  · intro h
    rw [AnswerAlike, h]
    exact ⟨rfl, fun _ => rfl, fun _ => rfl⟩

/-- A call that fails leaves a store that answers as before just when it was refused, or changes
nothing: the entries that a call leaves stay in memory when they cannot be written. The next call
that answers something writes all that is in memory, these entries included. -/
theorem failed_call {ρ : Type} [Log.Journal ρ] [Clock ρ] (cwd : Here) (s : Store) (call : Call)
    (w : World Node ρ) :
    (∀ f, (call.run cwd s w).1.2 = .error f →
      (AnswerAlike (call.run cwd s w).1.1 s ↔
        call.effect (draw w.rest) s.entries = .error f ∨
          ∃ answer, call.effect (draw w.rest) s.entries = .ok ⟨answer, s.entries⟩)) ∧
    (∀ f, call.effect (draw w.rest) s.entries = .error f →
      call.run cwd s w = ((s, .error f), w)) ∧
    (∀ e, call.effect (draw w.rest) s.entries = .ok e →
      (call.run cwd s w).1.1 = ⟨s.location, e.after⟩ ∧
        ((call.run cwd s w).1.2 = .ok e.answer ∨
          ∃ fault top, writeText cwd s.location (fileText e.after) w.files = (.error fault, top) ∧
            (call.run cwd s w).1.2 = .error (.store (.unwritable s.location.text fault)))) ∧
    ∀ answer, (call.run cwd s w).1.2 = .ok answer → answer ≠ [] →
      writeText cwd s.location (fileText (call.run cwd s w).1.1.entries) w.files =
        (.ok (), (call.run cwd s w).2.files) := by
  refine ⟨fun f hf => ?_, fun f => run_of_refused, fun e => run_of_effect cwd,
    fun answer => writeText_of_answer⟩
  rw [answerAlike_iff]
  cases heffect : call.effect (draw w.rest) s.entries with
  | error f' =>
    rw [run_of_refused heffect] at hf ⊢
    cases hf
    exact ⟨fun _ => Or.inl rfl, fun _ => rfl⟩
  | ok e =>
    rw [(run_of_effect cwd heffect).1]
    constructor
    · intro hsame
      exact Or.inr ⟨e.answer, by rw [← hsame]⟩
    · rintro (h | ⟨answer, h⟩)
      · cases h
      · cases h
        rfl

/-- A clock that stands still; identifiers count what was reported. -/
instance : Clock (List Log.Record) where
  now := return 0
  chance records := (records.length, records)

/-! ### A store that cannot be written -/

/-- Without a file a store is empty at first. -/
theorem load_of_missing {ρ : Type} [Log.Journal ρ] {cwd : Here} {l : Location} {w : World Node ρ}
    (h : readStore cwd l w.files = .ok none) : Store.load cwd l w = (.ok ⟨l, []⟩, w) := by
  have hget : (get : StateM (World Node ρ) _) w = (w, w) := rfl
  simp only [Store.load, bind, StateT.bind, hget, h]
  rfl

/-- A store without a file. -/
def newStore : Store := ⟨⟨0, ["d", "t.json"]⟩, []⟩

theorem readStore_newStore :
    readStore (.top []) newStore.location Node.empty = .ok none := by
  have hnul : Node.hasNul ["d", "t.json"] = false := by decide +kernel
  have hjoin : (Location.top []).join ⟨0, ["d", "t.json"]⟩ = ⟨1, ["d", "t.json"]⟩ := rfl
  have hlong : ¬ Node.pathLimit < (Location.text ⟨1, ["d", "t.json"]⟩).utf8ByteSize := by
    decide +kernel
  have hname : ¬ Node.nameLimit < "d".utf8ByteSize := by decide +kernel
  have hread : Node.empty.read ⟨1, ["d", "t.json"]⟩ = .error .noEntry := by
    simp [Node.read, Node.stat, Node.locate, hlong, Node.walk, hname, Node.empty, Node.get?,
      Node.lookup, bind, Except.bind]
  simp only [newStore, readStore, readText, hnul, hjoin, hread, Bool.false_eq_true, if_false,
    systemFailure]

/-- The template that is stored at first. -/
def firstEntry : Entry :=
  let d := draw ([] : List Log.Record)
  ⟨d.id, "A", "", "text", d.time, d.time⟩

theorem effect_firstEntry : (Call.create "A" "text" "").effect (draw ([] : List Log.Record)) [] =
    .ok ⟨[firstEntry], [firstEntry]⟩ := by
  rfl

/-- A file is where the directory of the store should be. -/
def blockedTree : Node := .directory [("d", .file .empty)]

theorem blockedTree_write (text : String) :
    writeText (.top []) newStore.location text blockedTree =
      (.error ⟨.entryExists, "d"⟩, blockedTree) := by
  have hjoin : (Location.top []).join newStore.location.parent = ⟨1, ["d"]⟩ := rfl
  have hlong : ¬ Node.pathLimit < (Location.text ⟨1, ["d"]⟩).utf8ByteSize := by decide +kernel
  have hname : ¬ Node.nameLimit < "d".utf8ByteSize := by decide +kernel
  have hlocate (followLast : Bool) : blockedTree.locate followLast ⟨1, ["d"]⟩ =
      .ok ⟨["d"], some (.file .empty)⟩ := by
    simp [Node.locate, hlong, Node.walk, hname, blockedTree, Node.get?, Node.lookup]
  have hfile : blockedTree.isDirectoryAt ⟨1, ["d"]⟩ = false := by
    rw [Node.isDirectoryAt, Node.stat, hlocate]
    rfl
  have hmake : blockedTree.ensureDirectories ⟨1, ["d"]⟩ =
      (blockedTree, some (.entryExists, ⟨1, ["d"]⟩)) := by
    simp [Node.ensureDirectories, Node.ensureDirectoriesUpTo, Node.makeDirectory,
      Node.ensureDirectory, hlocate, hfile, bind, Except.bind, throw, throwThe,
      MonadExceptOf.throw]
  rw [writeText, hjoin, hmake]
  rfl

/-- When the store was opened there was no such file, and a template that cannot be stored now is
in the list all the same. -/
theorem blockedTree_keeps_template :
    let x := (Call.create "A" "text" "").run (.top []) newStore
      ⟨blockedTree, ([] : List Log.Record)⟩
    (Store.load (.top []) newStore.location ⟨Node.empty, ([] : List Log.Record)⟩).1 =
      .ok newStore ∧
    x.1.2 = .error (.store (.unwritable "d/t.json" ⟨.entryExists, "d"⟩)) ∧
      x.1.1.entries = [firstEntry] ∧ ¬ AnswerAlike x.1.1 newStore := by
  intro x
  have hopened := load_of_missing (w := ⟨Node.empty, ([] : List Log.Record)⟩) readStore_newStore
  obtain ⟨hleft, hends⟩ := run_of_effect (.top []) (s := newStore)
    (w := ⟨blockedTree, ([] : List Log.Record)⟩) effect_firstEntry
  refine ⟨congrArg Prod.fst hopened, ?_, congrArg Store.entries hleft, fun halike => ?_⟩
  · rcases hends with h | ⟨fault, top, hw, h⟩
    · -- it would have been written
      have hw := writeText_of_answer h (List.cons_ne_nil _ _)
      rw [blockedTree_write] at hw
      cases hw
    · rw [blockedTree_write] at hw
      cases hw
      exact h
  · rw [answerAlike_iff, hleft] at halike
    cases halike

end Scaffold.Library
