import Scaffold.Proofs.Json.Printed
import Scaffold.Proofs.Library.Call
import Scaffold.Proofs.Workspace.Written

/-!
# Stores that are opened again

What a store writes to its file is read back as the entries that were written
(`readStore_of_written`). So at each point of a run of calls that end well (`Used`) the store that
is opened from the file is the store in memory (`used_reopens`).
-/

namespace Scaffold.Library
open Scaffold.Workspace

/-! ### Entries as they are kept -/

theorem ofJson?_toJson (e : Entry) : Entry.ofJson? e.toJson = some e := by
  simp [Entry.ofJson?, Entry.toJson, Json.field?, Json.lookup, Json.text?]

theorem ofJson_toJson (entries : List Entry) : ofJson (toJson entries) = entries := by
  have hitems : (entries.map Entry.toJson).filterMap Entry.ofJson? = entries := by
    rw [List.filterMap_map]
    exact (List.filterMap_congr fun e _ => ofJson?_toJson e).trans List.filterMap_some
  simpa [ofJson, toJson, Json.field?, Json.lookup] using hitems

theorem hasVersion_toJson (entries : List Entry) : hasVersion (toJson entries) = true := by
  simp [hasVersion, toJson, Json.field?, Json.lookup, version, Number.toJson, Number.ofJson?,
    Number.same]

theorem Entry.plain_toJson (e : Entry) (depth : Nat) : Json.Plain (depth + 1) e.toJson := by
  refine .object (by simp) fun field hfield => ?_
  simp only [List.mem_cons, List.not_mem_nil, or_false] at hfield
  rcases hfield with rfl | rfl | rfl | rfl | rfl | rfl <;> exact .text _

theorem tooLongToWrite_of_digit {n : Int} (h : n.natAbs < 10) :
    Decimal.tooLongToWrite n = false := by
  have hlong (k : Nat) (hk : k ≠ 0) : ¬ Decimal.tenTo k ≤ n.natAbs :=
    not_le.2 (h.trans_le (Nat.le_self_pow hk 10))
  exact decide_eq_false (hlong Decimal.digitLimit (by decide))

/-- A value of some version, with plain elements. -/
theorem plain_versioned {n : Int} (hn : n.natAbs < 10) {elements : List Json}
    (h : ∀ v ∈ elements, Json.Plain (977 + 1) v) :
    Json.Plain Json.depthLimit (.object [("version", .int n), ("templates", .array elements)]) := by
  have hdepth : Json.depthLimit = 977 + 1 + 1 + 1 := rfl
  rw [hdepth]
  refine .object (by simp) fun field hfield => ?_
  simp only [List.mem_cons, List.not_mem_nil, or_false] at hfield
  rcases hfield with rfl | rfl
  · exact .int (tooLongToWrite_of_digit hn)
  · exact .array h

theorem plain_toJson (entries : List Entry) : Json.Plain Json.depthLimit (toJson entries) := by
  refine plain_versioned (n := 1) (by decide) fun v hv => ?_
  obtain ⟨e, -, rfl⟩ := List.mem_map.1 hv
  exact e.plain_toJson _

/-! ### The file of a store -/

/-- The entries of what a file holds, if there is one: none under another version. -/
def entriesOf : Option Json → List Entry
  | some v => if hasVersion v then ofJson v else []
  | none => []

theorem entriesOf_toJson (entries : List Entry) : entriesOf (some (toJson entries)) = entries := by
  rw [entriesOf, hasVersion_toJson, if_pos rfl, ofJson_toJson]

section

variable {ρ : Type} [Log.Journal ρ] {cwd : Here} {l : Location} {s : Store} {w : World Node ρ}
  {top top' : Node}

/-- The file is all that a store depends on when it is opened. -/
theorem load_apply (cwd : Here) (l : Location) (w : World Node ρ) :
    ∃ r, Store.load cwd l w =
      ((readStore cwd l w.files).map fun v => ⟨l, entriesOf v⟩, ⟨w.files, r⟩) := by
  have hget : (get : StateM (World Node ρ) _) w = (w, w) := rfl
  simp only [Store.load, bind, StateT.bind, hget]
  rcases readStore cwd l w.files with f | _ | v
  · exact ⟨w.rest, rfl⟩
  · exact ⟨w.rest, rfl⟩
  · cases hv : hasVersion v with
    | true =>
      refine ⟨w.rest, ?_⟩
      simp only [hv, if_true, Except.map, entriesOf]
      rfl
    | false =>
      refine ⟨Log.Journal.add ⟨.warning, "templates",
        s!"Ignoring template store with unknown format: {l.text}"⟩ w.rest, ?_⟩
      simp only [hv, Bool.false_eq_true, if_false, Except.map, entriesOf]
      rfl

theorem load_eq_ok_iff : (Store.load cwd l w).1 = .ok s ↔
    ∃ v, readStore cwd l w.files = .ok v ∧ s = ⟨l, entriesOf v⟩ := by
  obtain ⟨r, hload⟩ := load_apply cwd l w
  rw [hload]
  cases readStore cwd l w.files with
  | error f => simp [Except.map]
  | ok v => simp [Except.map, eq_comm]

theorem hasNul_of_readStore {v : Option Json} (h : readStore cwd l top = .ok v) :
    Node.hasNul l.names = false := by
  rw [Bool.eq_false_iff]
  intro hnul
  simp only [readStore, readText, hnul, if_true, Node.nulFailure] at h
  cases h

/-- What is written is read back. -/
theorem readStore_of_written (hroot : top.bareAt? [] = some .directory)
    (hnul : Node.hasNul l.names = false) {v : Json} (hplain : Json.Plain Json.depthLimit v)
    (h : writeText cwd l (Json.print .file v) top = (.ok (), top')) :
    readStore cwd l top' = .ok (some v) ∧ top'.bareAt? [] = some .directory := by
  obtain ⟨hread, hdir⟩ := readText_of_writeText hroot hnul (Json.not_mem_print hplain) h
  refine ⟨?_, hdir⟩
  rw [readStore, hread]
  simp only [Json.parse_print hplain]

end

/-! ### Runs -/

section

variable {ρ : Type} [Log.Journal ρ] [Clock ρ]

/-- A store that was opened, after some calls that ended well, in the world as it is by then. The
tree is one with a directory for its top; all but the files may change between the calls. -/
inductive Used (cwd : Here) (l : Location) : Store → World Node ρ → Prop
  | opened {s : Store} {w w' : World Node ρ} (hroot : w.files.bareAt? [] = some .directory)
    (h : Store.load cwd l w = (.ok s, w')) : Used cwd l s w'
  | called {s s' : Store} {w w' : World Node ρ} {answer : List Entry} (h : Used cwd l s w)
    (call : Call) (hrun : call.run cwd s w = ((s', .ok answer), w')) : Used cwd l s' w'
  | waited {s : Store} {w : World Node ρ} (h : Used cwd l s w) (r : ρ) : Used cwd l s ⟨w.files, r⟩

/-- The store in memory is the one in its file. -/
structure InFile (cwd : Here) (l : Location) (s : Store) (top : Node) : Prop where
  root : top.bareAt? [] = some .directory
  read : ∃ v, readStore cwd l top = .ok v ∧ s = ⟨l, entriesOf v⟩

variable {cwd : Here} {l : Location} {s s' : Store} {w w' : World Node ρ} {call : Call}
  {answer : List Entry}

/-- A call that ends well leaves the store in its file: it has written what it left, or had nothing
to do. -/
theorem InFile.run (h : InFile cwd l s w.files)
    (hrun : call.run cwd s w = ((s', .ok answer), w')) :
    InFile cwd l s' w'.files ∧
      call.effect (draw w.rest) s.entries = .ok ⟨answer, s'.entries⟩ ∧
      (answer = [] ∧ s' = s ∧ w'.files = w.files ∨
        readStore cwd l w'.files = .ok (some (toJson s'.entries))) := by
  have hends := call_ends cwd s call w
  rw [hrun] at hends
  cases hends with
  | idle hdoes => exact ⟨h, hdoes, Or.inl ⟨rfl, rfl, rfl⟩⟩
  | @written e top r hdoes hw =>
    obtain ⟨v, hv, rfl⟩ := h.read
    obtain ⟨hread, hroot⟩ :=
      readStore_of_written h.root (hasNul_of_readStore hv) (plain_toJson _) hw
    exact ⟨⟨hroot, _, hread, by rw [entriesOf_toJson]⟩, hdoes, Or.inr hread⟩

/-- A call that does something answers it, when it can be written. -/
theorem run_of_written {e : Effect} {top : Node} (he : call.effect (draw w.rest) s.entries = .ok e)
    (hanswer : e.answer ≠ [])
    (hw : writeText cwd s.location (fileText e.after) w.files = (.ok (), top)) :
    ∃ r, call.run cwd s w = ((⟨s.location, e.after⟩, .ok e.answer), ⟨top, r⟩) := by
  have hends := call_ends cwd s call w
  generalize call.run cwd s w = x at hends
  cases hends with
  | refused h =>
    rw [he] at h
    cases h
  | idle h =>
    rw [he] at h
    cases h
    exact absurd rfl hanswer
  | written h hw' =>
    rw [he] at h
    cases h
    rw [hw] at hw'
    cases hw'
    exact ⟨_, rfl⟩
  | unwritten h hw' =>
    rw [he] at h
    cases h
    rw [hw] at hw'
    cases hw'

theorem Used.inFile (h : Used cwd l s w) : InFile cwd l s w.files := by
  induction h with
  | @opened s w w' hroot h =>
    obtain ⟨r, hload⟩ := load_apply cwd l w
    have hfiles : w.files = w'.files := congrArg (fun x => x.2.files) (hload.symm.trans h)
    exact hfiles ▸ ⟨hroot, load_eq_ok_iff.1 (congrArg Prod.fst h)⟩
  | called _ call hrun ih => exact (ih.run hrun).1
  | waited _ r ih => exact ih

/-- After each call of a run in which all end well, and before the next one, the store that is
opened from the file has the entries of the store in memory, field by field and in order. -/
theorem used_reopens (h : Used cwd l s w) :
    ∃ w', Store.load cwd l w = (.ok s, w') ∧ w'.files = w.files := by
  obtain ⟨r, hload⟩ := load_apply cwd l w
  refine ⟨⟨w.files, r⟩, ?_, rfl⟩
  rw [hload, ← load_eq_ok_iff.2 h.inFile.read, hload]

end

/-! ### A file in the top directory -/

/-- A store whose file is in the current directory, which is the top. -/
def topLocation : Location := ⟨0, ["t.json"]⟩

section

variable {entries : List (String × Node)}
  (h : ∀ n, Node.lookup "t.json" entries = some n → ∃ content, n = .file content)

include h

theorem locate_topLocation : (Node.directory entries).locate true ⟨1, ["t.json"]⟩ =
    .ok ⟨["t.json"], Node.lookup "t.json" entries⟩ := by
  have hlong : ¬ Node.pathLimit < (Location.text ⟨1, ["t.json"]⟩).utf8ByteSize := by decide +kernel
  have hname : ¬ Node.nameLimit < "t.json".utf8ByteSize := by decide +kernel
  cases hl : Node.lookup "t.json" entries with
  | none => simp [Node.locate, hlong, Node.walk, hname, Node.get?, hl]
  | some n =>
    obtain ⟨content, rfl⟩ := h n hl
    simp [Node.locate, hlong, Node.walk, hname, Node.get?, hl]

/-- Nothing is in the way of a file in the top directory. -/
theorem writeText_topLocation (text : String) :
    writeText (.top []) topLocation text (.directory entries) =
      (.ok (), .directory (Node.insert "t.json" (.file text.toUTF8) entries)) := by
  have hparent : (Location.top []).join topLocation.parent = ⟨1, []⟩ := rfl
  have hjoin : (Location.top []).join topLocation = ⟨1, ["t.json"]⟩ := rfl
  have htop : ¬ Node.pathLimit < (Location.text ⟨1, []⟩).utf8ByteSize := by decide +kernel
  have hroot (followLast : Bool) : (Node.directory entries).locate followLast ⟨1, []⟩ =
      .ok ⟨[], some (.directory entries)⟩ := by
    simp [Node.locate, htop, Node.walk]
  have hmade : (Node.directory entries).ensureDirectories ⟨1, []⟩ = (.directory entries, none) := by
    simp [Node.ensureDirectories, Node.ensureDirectoriesUpTo, Node.ensureDirectory,
      Node.makeDirectory, Node.isDirectoryAt, Node.stat, hroot, bind, Except.bind, pure,
      Except.pure, throw, throwThe, MonadExceptOf.throw, Node.isDirectory]
  have hput : (Node.directory entries).put ["t.json"] (.file text.toUTF8) =
      .directory (Node.insert "t.json" (.file text.toUTF8) entries) := by
    simp [Node.put]
  have hwrite : (Node.directory entries).write ⟨1, ["t.json"]⟩ text.toUTF8 =
      .ok (.directory (Node.insert "t.json" (.file text.toUTF8) entries)) := by
    simp only [Node.write, locate_topLocation h, bind, Except.bind, hput]
    cases hl : Node.lookup "t.json" entries with
    | none => rfl
    | some n =>
      obtain ⟨content, rfl⟩ := h n hl
      rfl
  simp only [writeText, hparent, hmade, hjoin, hwrite]

end

/-- The top directory with a store's file that holds a text. -/
def topTree (text : String) : Node := .directory [("t.json", .file text.toUTF8)]

theorem writeText_empty (text : String) :
    writeText (.top []) topLocation text Node.empty = (.ok (), topTree text) :=
  writeText_topLocation (by simp [Node.lookup]) text

theorem writeText_topTree (text text' : String) :
    writeText (.top []) topLocation text' (topTree text) = (.ok (), topTree text') :=
  writeText_topLocation (by simp [Node.lookup]) text'

theorem hasNul_topLocation : Node.hasNul topLocation.names = false := by decide +kernel

theorem readStore_empty : readStore (.top []) topLocation Node.empty = .ok none := by
  have hjoin : (Location.top []).join topLocation = ⟨1, ["t.json"]⟩ := rfl
  have hread : Node.empty.read ⟨1, ["t.json"]⟩ = .error .noEntry := by
    have hfound : (Node.directory []).locate true ⟨1, ["t.json"]⟩ = _ :=
      locate_topLocation (by simp [Node.lookup])
    simp only [Node.read, Node.stat, Node.empty, hfound, bind, Except.bind]
    rfl
  simp only [readStore, readText, hasNul_topLocation, hjoin, hread, Bool.false_eq_true, if_false,
    systemFailure]

/-- A new store in an empty directory, after a template was stored. -/
theorem used_topTree : ∃ r, Used (.top []) topLocation ⟨topLocation, [firstEntry]⟩
    (⟨topTree (fileText [firstEntry]), r⟩ : World Node (List Log.Record)) := by
  have hopened : Used (.top []) topLocation ⟨topLocation, []⟩
      (⟨Node.empty, []⟩ : World Node (List Log.Record)) :=
    .opened (w := ⟨Node.empty, []⟩) rfl (load_of_missing readStore_empty)
  obtain ⟨r, hrun⟩ := run_of_written (s := ⟨topLocation, []⟩) (w := ⟨Node.empty, []⟩)
    effect_firstEntry (List.cons_ne_nil _ _) (writeText_empty _)
  exact ⟨r, hopened.called _ hrun⟩

theorem topTree_reopens : ∃ w : World Node (List Log.Record),
    Used (.top []) topLocation ⟨topLocation, [firstEntry]⟩ w ∧
      ∃ w', Store.load (.top []) topLocation w = (.ok ⟨topLocation, [firstEntry]⟩, w') ∧
        w'.files = w.files := by
  obtain ⟨r, hused⟩ := used_topTree
  exact ⟨_, hused, used_reopens hused⟩

end Scaffold.Library
