import Scaffold.Plan.Item
import Scaffold.Proofs.Sequence

/-!
# What a reply lists

A reply lists entries (`listing`): the elements of a bare array, or those of the array under `paths`
and then those of the array under `files`. An entry that is a text and a path calls for an item
(`Entry.item?`).

The plan of a reply has the items that are called for, in order, the first one of each path
(`build_eq`). So an entry that calls for no item, or for a path that was called for before, may as
well not be there (`build_of_inserted`). `build_listing` puts this together.
-/

namespace Scaffold.Plan

/-- An element of one of a reply's lists, with the kind that the list gives it. -/
structure Entry where
  value : Json
  forced : Option Kind

/-- The elements of a list; what is no array counts as empty. -/
def entriesIn (forced : Option Kind) : Option Json → List Entry
  | some (.array values) => values.map (⟨·, forced⟩)
  | _ => []

/-- The elements of a reply's lists, in order. -/
def listing : Json → List Entry
  | .array values => values.map (⟨·, none⟩)
  | .object fields =>
    entriesIn none (Json.lookup "paths" fields) ++
      entriesIn (some .file) (Json.lookup "files" fields)
  | _ => []

/-- The path that an entry is read as. -/
def Entry.path? (e : Entry) : Option String :=
  match e.value with
  | .text raw => (normalize raw).toOption
  | _ => none

/-- The item that an entry calls for; its name tells the kind if the list does not. -/
def Entry.item? (e : Entry) : Option Item :=
  e.path?.map fun path => Item.of path (e.forced.getD (classify path))

section

variable {reply reply' : Json} {front back : List Entry} {entry : Entry} {path : String}

/-! ### Items that are called for -/

theorem map_path_item? (e : Entry) : e.item?.map Item.path = e.path? := by
  rw [Entry.item?, Option.map_map]
  exact Option.map_id_apply

theorem map_path_filterMap_item? (es : List Entry) :
    (es.filterMap Entry.item?).map Item.path = es.filterMap Entry.path? := by
  rw [List.map_filterMap]
  exact List.filterMap_congr fun e _ => map_path_item? e

/-- The candidates of a reply are the texts that it lists. -/
theorem candidates_eq (reply : Json) :
    candidates reply =
      (listing reply).filterMap fun e => e.value.text?.map fun raw => ⟨raw, e.forced⟩ := by
  have hentries : ∀ (forced : Option Kind) (member : Option Json), candidatesIn forced member =
        (entriesIn forced member).filterMap fun e =>
          e.value.text?.map fun raw => ⟨raw, e.forced⟩ := by
    intro forced member
    rcases member with _ | v
    · rfl
    · cases v with
      | array values => simp [candidatesIn, entriesIn, List.filterMap_map]
      | _ => rfl
  cases reply with
  | array values => exact hentries none (some (.array values))
  | object fields =>
    rw [listing, List.filterMap_append, ← hentries, ← hentries]
    rfl
  | _ => rfl

/-- A candidate adds the item that its entry calls for, unless the path is there. -/
theorem accept_eq (items : List Item) (raw : String) (forced : Option Kind) :
    accept items ⟨raw, forced⟩ =
      match Entry.item? ⟨.text raw, forced⟩ with
      | some item =>
        if (items.map Item.path).contains item.path then items else items ++ [item]
      | none => items := by
  cases h : normalize raw with
  | error f => simp only [accept, Entry.item?, Entry.path?, h, Except.toOption, Option.map_none]
  | ok path =>
    have hany : items.any (·.path == path) = (items.map Item.path).contains path := by
      rw [List.contains_map]
      congr 1
      funext item
      exact BEq.comm
    simp only [accept, Entry.item?, Entry.path?, h, Except.toOption, Option.map_some, hany]
    rfl

/-- The items that are called for, in order, the first one of each path. -/
theorem build_eq (reply : Json) :
    build reply = firstsOn Item.path ((listing reply).filterMap Entry.item?) := by
  have hfold : ∀ (es : List Entry) (items : List Item),
      (es.filterMap fun e => e.value.text?.map fun raw => ⟨raw, e.forced⟩).foldl accept items =
        (es.filterMap Entry.item?).foldl
          (fun seen item =>
            if (seen.map Item.path).contains item.path then seen else seen ++ [item]) items := by
    intro es
    induction es with
    | nil => exact fun items => rfl
    | cons e es ih =>
      intro items
      obtain ⟨v, forced⟩ := e
      cases v with
      | text raw =>
        rw [List.filterMap_cons_some (by rfl), List.foldl_cons, ih, accept_eq]
        cases hitem : Entry.item? ⟨.text raw, forced⟩ with
        | none => rw [List.filterMap_cons_none hitem]
        | some item => rw [List.filterMap_cons_some hitem, List.foldl_cons]
      | _ => exact ih items
  rw [build, candidates_eq, hfold, foldl_firstsOn]
  simp

/-! ### Paths of a plan -/

theorem paths_build (reply : Json) :
    paths (build reply) = ((listing reply).filterMap Entry.path?).eraseDups := by
  rw [paths, build_eq, map_firstsOn, map_path_filterMap_item?]

theorem nodup_paths_build (reply : Json) : (paths (build reply)).Nodup := by
  rw [paths_build]
  exact nodup_eraseDups _

/-- A path of a plan is in its one spelling. -/
theorem exists_raw_of_mem_build (h : path ∈ paths (build reply)) :
    ∃ raw, normalize raw = .ok path := by
  rw [paths_build, List.mem_eraseDups, List.mem_filterMap] at h
  obtain ⟨⟨v, forced⟩, -, he⟩ := h
  cases v with
  | text raw =>
    refine ⟨raw, ?_⟩
    simp only [Entry.path?] at he
    cases hn : normalize raw with
    | ok path' =>
      rw [hn] at he
      cases he
      rfl
    | error f =>
      rw [hn] at he
      cases he
  | _ => cases he

/-! ### Items of a plan -/

theorem content_of_item? {e : Entry} {item : Item} (h : e.item? = some item) :
    item.content = if item.kind = .file then some "" else none := by
  obtain ⟨path, -, rfl⟩ := Option.map_eq_some_iff.1 h
  generalize e.forced.getD (classify path) = kind
  cases kind <;> rfl

/-- Files are planned empty, and directories without content. -/
theorem content_of_mem_build {item : Item} (h : item ∈ build reply) :
    item.content = if item.kind = .file then some "" else none := by
  rw [build_eq] at h
  obtain ⟨e, -, he⟩ := List.mem_filterMap.1 ((firstsOn_sublist _ _).subset h)
  exact content_of_item? he

/-- An entry that is no path, or whose path was called for before, changes nothing. -/
theorem build_of_inserted (h : listing reply = front ++ back)
    (h' : listing reply' = front ++ entry :: back)
    (hentry : ∀ path, entry.path? = some path → ∃ e ∈ front, e.path? = some path) :
    build reply' = build reply := by
  rw [build_eq, build_eq, h, h', List.filterMap_append, List.filterMap_append]
  cases hitem : entry.item? with
  | none => rw [List.filterMap_cons_none hitem]
  | some item =>
    rw [List.filterMap_cons_some hitem]
    refine firstsOn_insert ?_ _
    rw [map_path_filterMap_item?, List.mem_filterMap]
    refine hentry item.path ?_
    rw [← map_path_item?, hitem, Option.map_some]

/-- The plan of a reply: the items that its entries call for, in order, the first one of each path.
Each path is there once, files and only files have empty content, and an entry that is no path, or
whose path was called for before, changes nothing. -/
theorem build_listing (reply : Json) :
    build reply = firstsOn Item.path ((listing reply).filterMap Entry.item?) ∧
    (paths (build reply)).Nodup ∧
    (∀ item ∈ build reply, item.content = if item.kind = .file then some "" else none) ∧
    ∀ reply' front entry back, listing reply = front ++ back →
      listing reply' = front ++ entry :: back →
      (∀ path, entry.path? = some path → ∃ e ∈ front, e.path? = some path) →
      build reply' = build reply := by
  refine ⟨build_eq reply, nodup_paths_build reply, fun item hitem => ?_, ?_⟩
  · rw [build_eq] at hitem
    obtain ⟨e, -, he⟩ := List.mem_filterMap.1 ((firstsOn_sublist _ _).subset hitem)
    exact content_of_item? he
  · exact fun reply' front entry back h h' hentry => build_of_inserted h h' hentry

end

/-- A path that is listed twice, in two spellings and in both lists. -/
theorem build_listing_respelled :
    build (.object [("paths", .array [.text "src/app.js", .text "lib/"]),
        ("files", .array [.null, .text "lib"])]) =
      [⟨"src/app.js", .file, some ""⟩, ⟨"lib", .directory, none⟩] ∧
    build (.object [("paths", .array [.text "src/app.js", .text ".\\src//app.js", .text "lib/"]),
        ("files", .array [.null, .text "lib"])]) =
      build (.object [("paths", .array [.text "src/app.js", .text "lib/"]),
        ("files", .array [.null, .text "lib"])]) := by
  refine ⟨rfl, ?_⟩
  refine (build_listing _).2.2.2 _ [⟨.text "src/app.js", none⟩] ⟨.text ".\\src//app.js", none⟩
    [⟨.text "lib/", none⟩, ⟨.null, some .file⟩, ⟨.text "lib", some .file⟩] rfl rfl ?_
  intro path hpath
  exact ⟨_, List.mem_singleton_self _, hpath⟩

end Scaffold.Plan
