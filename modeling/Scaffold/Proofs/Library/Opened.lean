import Scaffold.Proofs.Failure
import Scaffold.Proofs.Json.Refused
import Scaffold.Proofs.Library.Edits

/-!
# Opening a store

A store's file is read in one of the ways of `Reading`: there is no file, it cannot be read, its
bytes are no text, its text is no JSON, or it holds a value. The entries of an open store are the
elements of that value with six texts (`Kept`). A file that is no text, or whose JSON has a number
that is too long or is nested too deeply, ends the opening with a failure that is not the store's
(`Escapes`); no other file does (`load_opens`).
-/

namespace Scaffold.Library
open Scaffold.Workspace

/-! ### The elements that are entries -/

/-- An element of a store's file with the six texts of an entry. -/
structure Keeps (v : Json) (e : Entry) : Prop where
  id : v.field? "id" = some (.text e.id)
  name : v.field? "name" = some (.text e.name)
  description : v.field? "description" = some (.text e.description)
  content : v.field? "content" = some (.text e.content)
  createdAt : v.field? "created_at" = some (.text e.createdAt)
  updatedAt : v.field? "updated_at" = some (.text e.updatedAt)

theorem text?_eq_some_iff {v : Json} {s : String} : v.text? = some s ↔ v = .text s := by
  cases v <;> simp [Json.text?]

theorem ofJson?_eq_some_iff {v : Json} {e : Entry} : Entry.ofJson? v = some e ↔ Keeps v e := by
  unfold Entry.ofJson?
  simp only [Option.bind_eq_bind, Option.pure_def, Option.bind_eq_some_iff, text?_eq_some_iff,
    exists_eq_right, Option.some.injEq]
  constructor
  · rintro ⟨id, hid, name, hname, description, hdescription, content, hcontent, createdAt, hcreated,
      updatedAt, hupdated, rfl⟩
    exact ⟨hid, hname, hdescription, hcontent, hcreated, hupdated⟩
  · rintro ⟨hid, hname, hdescription, hcontent, hcreated, hupdated⟩
    exact ⟨_, hid, _, hname, _, hdescription, _, hcontent, _, hcreated, _, hupdated, rfl⟩

/-- The entries of elements: one for each that has six texts, in their order. -/
inductive Kept : List Json → List Entry → Prop
  | nil : Kept [] []
  | keep {v : Json} {e : Entry} {vs : List Json} {es : List Entry} (h : Keeps v e)
    (hs : Kept vs es) : Kept (v :: vs) (e :: es)
  | skip {v : Json} {vs : List Json} {es : List Entry} (h : ∀ e, ¬ Keeps v e) (hs : Kept vs es) :
    Kept (v :: vs) es

theorem kept_filterMap (items : List Json) : Kept items (items.filterMap Entry.ofJson?) := by
  induction items with
  | nil => exact .nil
  | cons v items ih =>
    cases hv : Entry.ofJson? v with
    | none =>
      rw [List.filterMap_cons_none hv]
      refine .skip (fun e he => ?_) ih
      rw [ofJson?_eq_some_iff.2 he] at hv
      cases hv
    | some e =>
      rw [List.filterMap_cons_some hv]
      exact .keep (ofJson?_eq_some_iff.1 hv) ih

/-- The elements that are looked at: none of a value of another version. -/
def looked : Option Json → List Json
  | some v => if hasVersion v then elements v else []
  | none => []

theorem entriesOf_eq (v : Option Json) : entriesOf v = (looked v).filterMap Entry.ofJson? := by
  cases v with
  | none => rfl
  | some v =>
    rw [entriesOf, looked]
    split
    · unfold ofJson elements
      cases v.field? "templates" with
      | none => rfl
      | some items => cases items <;> rfl
    · rfl

/-! ### Reading the file -/

/-- The file of a store holds bytes. -/
structure HoldsBytes (cwd : Here) (l : Location) (top : Node) (bytes : ByteArray) : Prop where
  named : Node.hasNul l.names = false
  read : top.read (cwd.join l) = .ok bytes

/-- How a store's file is read. -/
inductive Reading (cwd : Here) (l : Location) (top : Node) : Except Failure (Option Json) → Prop
  /-- the path is none that a file can have -/
  | nul (h : Node.hasNul l.names = true) : Reading cwd l top (.error Node.nulFailure)
  | missing (hnul : Node.hasNul l.names = false) (h : top.read (cwd.join l) = .error .noEntry) :
    Reading cwd l top (.ok none)
  | unreadable {cause : SystemCause} (hnul : Node.hasNul l.names = false)
    (h : top.read (cwd.join l) = .error cause) (hcause : cause ≠ .noEntry) :
    Reading cwd l top (.error (.store (.unreadable l.text ⟨cause, l.text⟩)))
  | undecodable {bytes : ByteArray} (h : HoldsBytes cwd l top bytes) (hs : textOf? bytes = none) :
    Reading cwd l top (.error .undecodable)
  | broken {bytes : ByteArray} {s : String} {fault : Json.Fault} (h : HoldsBytes cwd l top bytes)
    (hs : textOf? bytes = some s) (hv : Json.parse s = .error fault) :
    Reading cwd l top (.error (fault.failure (.store (.malformed l.text))))
  | value {bytes : ByteArray} {s : String} {v : Json} (h : HoldsBytes cwd l top bytes)
    (hs : textOf? bytes = some s) (hv : Json.parse s = .ok v) : Reading cwd l top (.ok (some v))

theorem readStore_reading (cwd : Here) (l : Location) (top : Node) :
    Reading cwd l top (readStore cwd l top) := by
  unfold readStore readText
  cases hnul : Node.hasNul l.names with
  | true => exact .nul hnul
  | false =>
    cases hread : top.read (cwd.join l) with
    | error cause =>
      cases cause with
      | noEntry => exact .missing hnul hread
      | _ => exact .unreadable hnul hread (by simp)
    | ok bytes =>
      simp only [Bool.false_eq_true, if_false]
      cases hs : textOf? bytes with
      | none => exact .undecodable ⟨hnul, hread⟩ hs
      | some s =>
        simp only
        cases hv : Json.parse s with
        | error fault => exact .broken ⟨hnul, hread⟩ hs hv
        | ok v => exact .value ⟨hnul, hread⟩ hs hv

theorem Reading.eq {cwd : Here} {l : Location} {top : Node} {r : Except Failure (Option Json)}
    (h : Reading cwd l top r) : readStore cwd l top = r := by
  cases h with
  | nul hnul => simp [readStore, readText, hnul, Node.nulFailure]
  | missing hnul h => simp [readStore, readText, hnul, h, systemFailure]
  | @unreadable cause hnul h hcause =>
    simp only [readStore, readText, hnul, h, systemFailure]
    cases cause with
    | noEntry => exact absurd rfl hcause
    | _ => rfl
  | undecodable h hs => simp [readStore, readText, h.named, h.read, hs]
  | broken h hs hv => simp [readStore, readText, h.named, h.read, hs, hv]
  | value h hs hv => simp [readStore, readText, h.named, h.read, hs, hv]

theorem reading_iff {cwd : Here} {l : Location} {top : Node} {r : Except Failure (Option Json)} :
    Reading cwd l top r ↔ readStore cwd l top = r :=
  ⟨Reading.eq, fun h => h ▸ readStore_reading cwd l top⟩

/-! ### What ends the opening of a store -/

/-- A failure of the store's own. -/
def OfStore (f : Failure) : Prop := ∃ fault, f = .store fault

/-- How opening a store ends with a failure that is not the store's. -/
inductive Escapes (cwd : Here) (l : Location) (top : Node) : Failure → Prop
  /-- the path is none that a file can have -/
  | nul (h : Node.hasNul l.names = true) : Escapes cwd l top Node.nulFailure
  | undecodable {bytes : ByteArray} (h : HoldsBytes cwd l top bytes)
    (hbytes : String.fromUTF8? bytes = none) : Escapes cwd l top .undecodable
  /-- the text has a whole number with too many digits -/
  | digits {bytes : ByteArray} {s : String} {n : Nat} (h : HoldsBytes cwd l top bytes)
    (hs : textOf? bytes = some s) (hv : Json.parse s = .error (.digits n)) :
    Escapes cwd l top (Json.digitsFailure n)
  /-- the text has an array or an object that is nested too deeply -/
  | depth {bytes : ByteArray} {s : String} {inArray : Bool} (h : HoldsBytes cwd l top bytes)
    (hs : textOf? bytes = some s) (hv : Json.parse s = .error (.depth inArray)) :
    Escapes cwd l top (Json.depthFailure inArray)

theorem textOf?_eq_none {bytes : ByteArray} :
    textOf? bytes = none ↔ String.fromUTF8? bytes = none := by
  rw [textOf?, Option.map_eq_none_iff]

section

variable {cwd : Here} {l : Location} {top : Node} {f : Failure}

theorem Escapes.not_ofStore (h : Escapes cwd l top f) : ¬ OfStore f := by
  rintro ⟨fault, rfl⟩
  cases h

theorem Escapes.reading (h : Escapes cwd l top f) : Reading cwd l top (.error f) := by
  cases h with
  | nul hnul => exact .nul hnul
  | undecodable h hbytes => exact .undecodable h (textOf?_eq_none.2 hbytes)
  | digits h hs hv => exact .broken h hs hv
  | depth h hs hv => exact .broken h hs hv

theorem escapes_of_reading (h : Reading cwd l top (.error f)) (hf : ¬ OfStore f) :
    Escapes cwd l top f := by
  cases h with
  | nul hnul => exact .nul hnul
  | unreadable hnul h hcause => exact absurd ⟨_, rfl⟩ hf
  | undecodable h hs => exact .undecodable h (textOf?_eq_none.1 hs)
  | @broken bytes s fault h hs hv =>
    cases fault with
    | malformed left => exact absurd ⟨_, rfl⟩ hf
    | digits n => exact .digits h hs hv
    | depth inArray => exact .depth h hs hv

theorem escapes_iff : Escapes cwd l top f ↔ readStore cwd l top = .error f ∧ ¬ OfStore f :=
  ⟨fun h => ⟨h.reading.eq, h.not_ofStore⟩, fun h => escapes_of_reading (reading_iff.2 h.1) h.2⟩

variable {ρ : Type} [Log.Journal ρ]

/-- Opening a store changes no file. It ends with a failure that is not the store's just when the
file's bytes are no text or its JSON has a number too long or a nesting too deep (or the path has a
NUL in it); of all other files it opens, or fails with a failure of the store's. An open store has
one entry for each element of the file with six texts, if the file is of this version. -/
theorem load_opens (cwd : Here) (l : Location) (w : World Node ρ) :
    (Store.load cwd l w).2.files = w.files ∧
      (∀ f, (Store.load cwd l w).1 = .error f ∧ ¬ OfStore f ↔ Escapes cwd l w.files f) ∧
      ((∃ s, (Store.load cwd l w).1 = .ok s) ∨ Fails OfStore (Store.load cwd l w).1 ↔
        ∀ f, ¬ Escapes cwd l w.files f) ∧
      ∀ s, (Store.load cwd l w).1 = .ok s → s.location = l ∧
        ∃ v, Reading cwd l w.files (.ok v) ∧ Kept (looked v) s.entries := by
  obtain ⟨r, hload⟩ := load_apply cwd l w
  rw [hload]
  cases hread : readStore cwd l w.files with
  | error f =>
    refine ⟨rfl, fun f' => ?_, ?_, fun s hs => by cases hs⟩
    · rw [escapes_iff, hread]
      simp [Except.map]
    · simp [Except.map, escapes_iff, hread, fails_error]
  | ok v =>
    refine ⟨rfl, fun f' => ?_, ?_, ?_⟩
    · rw [escapes_iff, hread]
      simp [Except.map]
    · simp [Except.map, escapes_iff, hread]
    · rintro s ⟨⟩
      have hkept : Kept (looked v) (entriesOf v) := entriesOf_eq v ▸ kept_filterMap (looked v)
      exact ⟨rfl, v, reading_iff.2 hread, hkept⟩

end

/-! ### Files that do not open -/

/-- The top directory with a store's file that holds bytes. -/
def heldTree (bytes : ByteArray) : Node := .directory [("t.json", .file bytes)]

theorem holdsBytes_heldTree (bytes : ByteArray) :
    HoldsBytes (.top []) topLocation (heldTree bytes) bytes := by
  refine ⟨hasNul_topLocation, ?_⟩
  have hjoin : (Location.top []).join topLocation = ⟨1, ["t.json"]⟩ := rfl
  have hfound : (heldTree bytes).locate true ⟨1, ["t.json"]⟩ = _ :=
    locate_topLocation (by simp [Node.lookup])
  rw [hjoin]
  simp only [Node.read, Node.stat, hfound, bind, Except.bind]
  rfl

theorem load_error {l : Location} {cwd : Here} {top : Node} {f : Failure}
    (h : Reading cwd l top (.error f)) :
    (Store.load cwd l (⟨top, []⟩ : World Node (List Log.Record))).1 = .error f := by
  obtain ⟨r, hload⟩ := load_apply cwd l (⟨top, []⟩ : World Node (List Log.Record))
  rw [hload, h.eq]
  rfl

/-- A text without carriage returns that is refused. -/
theorem load_refused {text : String} {fault : Json.Fault} (hcr : '\r' ∉ text.toList)
    (hv : Json.parse text = .error fault) :
    (Store.load (.top []) topLocation (⟨topTree text, []⟩ : World Node (List Log.Record))).1 =
      .error (fault.failure (.store (.malformed topLocation.text))) :=
  load_error (.broken (holdsBytes_heldTree _) (textOf?_toUTF8 hcr) hv)

theorem load_brackets {n : Nat} (h : Json.depthLimit < n) :
    (Store.load (.top []) topLocation (⟨topTree (String.ofList (List.replicate n '[')), []⟩ :
      World Node (List Log.Record))).1 = .error (Json.depthFailure true) :=
  load_refused (by simp [List.mem_replicate]) (Json.parse_brackets h)

theorem load_ones {n : Nat} (h : Decimal.digitLimit < n) :
    (Store.load (.top []) topLocation (⟨topTree (String.ofList (List.replicate n '1')), []⟩ :
      World Node (List Log.Record))).1 = .error (Json.digitsFailure n) := by
  have hdigits : ∀ c ∈ List.replicate n '1', c.isDigit = true := fun c hc =>
    List.eq_of_mem_replicate hc ▸ rfl
  have hparse := Json.parse_of_long hdigits (by simp [List.head?_replicate])
    (by rwa [List.length_replicate])
  rw [List.length_replicate] at hparse
  exact load_refused (by simp [List.mem_replicate]) hparse

/-- Opening a store fails with failures that are not the store's: when its file is a single byte
that is no text, when it has brackets only, and when it has digits only. -/
theorem files_escape :
    ¬ (∀ top : Node, FailsOnly OfStore (Store.load (.top []) topLocation
      (⟨top, []⟩ : World Node (List Log.Record))).1) ∧
    (Store.load (.top []) topLocation
      (⟨heldTree ⟨#[0xff]⟩, []⟩ : World Node (List Log.Record))).1 = .error .undecodable ∧
    (Store.load (.top []) topLocation (⟨topTree (String.ofList (List.replicate 5000 '[')), []⟩ :
      World Node (List Log.Record))).1 = .error (Json.depthFailure true) ∧
    (Store.load (.top []) topLocation (⟨topTree (String.ofList (List.replicate 4301 '1')), []⟩ :
      World Node (List Log.Record))).1 = .error (Json.digitsFailure 4301) := by
  have hbyte := load_error (.undecodable (holdsBytes_heldTree ⟨#[0xff]⟩) (by decide +kernel))
  refine ⟨fun h => ?_, hbyte, load_brackets (by decide), load_ones (by decide)⟩
  obtain ⟨fault, hfault⟩ := h _ _ hbyte
  cases hfault

end Scaffold.Library
