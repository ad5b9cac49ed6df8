import Scaffold.Proofs.Generation.Run
import Scaffold.Proofs.Orchestration.Kept
import Scaffold.Proofs.Plan.Listing
import Scaffold.Proofs.Workspace.Added
import Scaffold.Proofs.Workspace.Linkless

/-!
# What a plan leaves behind

Making the items of a plan adds nodes, and nothing else (`adds_place`). From that,

* an item that was made is there (`isThere_of_place`), and still is when the pass is over
  (`isThere_of_materialize`);
* each new node was added at the turn of one item (`exists_turn_of_materialize`), which allows it
  (`AddedFor`).

`materialize_makes` puts this together. An item whose path strays may add a node elsewhere: a plan
for `strayTree` does.
-/

namespace Scaffold.Orchestration
open Scaffold.Workspace Scaffold.Generation

/-- What an item asks for is there: a directory, or anything in place of a file. -/
def IsThere (root : Location) (top : Node) (item : Plan.Item) : Prop :=
  match item.kind with
  | .directory => ∃ l, confine root top item.path = .ok l ∧ top.isDirectoryAt l = true
  | .file => existsIn root item.path top = .ok true

/-- Each item that is not made in its turn is refused by the file system. -/
def RefusesOnly {ρ : Type} [Log.Journal ρ] (root : Location) (items : List Plan.Item)
    (w : World Node ρ) : Prop :=
  ∀ front item back made w' f, items = front ++ item :: back →
    materialize (.local root) front w = (.ok made, w') →
    (place (.local root) item w'.files).1 = .error f → ∃ path reason, f = .fileSystem path reason

/-- A node that was not there is there after an item was placed, at the turn of that item. -/
def AddedInTurn {ρ : Type} [Log.Journal ρ] (root : Location) (items : List Plan.Item)
    (w : World Node ρ) (item : Plan.Item) (site : List String) (b : Bare) : Prop :=
  ∃ front back made w', items = front ++ item :: back ∧
    materialize (.local root) front w = (.ok made, w') ∧ w'.files.bareAt? site = none ∧
    (place (.local root) item w'.files).2.bareAt? site = some b

/-- The names that an item's path resolves to. -/
def resolvedNames (root : Location) (top : Node) (item : Plan.Item) : List String :=
  (top.resolveNames (namesIn root item.path)).names

/-- A node that an item adds: an empty directory, or the item's file. It is where the item's path
resolves to, a directory also above that, unless the path strays. -/
structure AddedFor (root : Location) (top : Node) (item : Plan.Item) (site : List String)
    (leaf : Node) : Prop where
  content : leaf = Node.empty ∨
    item.kind = .file ∧ leaf = Node.file (item.content.getD "").toUTF8
  onWay : Direct top root → ¬ Strays top (namesIn root item.path) →
    site <+: resolvedNames root top item ∧
      (leaf = Node.empty ∨ site = resolvedNames root top item)

/-! ### One item -/

section

variable {root : Location} {item : Plan.Item} {top top' : Node}

theorem place_directory (hkind : item.kind = .directory) (root : Location) (top : Node) :
    place (.local root) item top = createDirectoryIn root item.path top := by
  simp only [place, hkind, FileSystem.local]

/-- A file is placed once its directory was made, if nothing is there. -/
theorem place_file_cases (hkind : item.kind = .file) (root : Location) (top : Node) :
    (∃ f mid, createDirectoryIn root (Plan.parent item.path) top = (.error f, mid) ∧
        place (.local root) item top = (.error f, mid)) ∨
      ∃ mid, createDirectoryIn root (Plan.parent item.path) top = (.ok (), mid) ∧
        ((∃ f, place (.local root) item top = (.error f, mid)) ∨
          existsIn root item.path mid = .ok true ∧ place (.local root) item top = (.ok (), mid) ∨
          existsIn root item.path mid = .ok false ∧ place (.local root) item top =
            writeFileIn root item.path (item.content.getD "").toUTF8 mid) := by
  rcases hd : createDirectoryIn root (Plan.parent item.path) top with ⟨f | ⟨⟩, mid⟩
  · refine Or.inl ⟨f, mid, rfl, ?_⟩
    simp only [place, hkind, prepare, FileSystem.local, bind, StateT.bind, hd]
    rfl
  · refine Or.inr ⟨mid, rfl, ?_⟩
    rcases he : existsIn root item.path mid with f | there
    · refine Or.inl ⟨f, ?_⟩
      simp only [place, hkind, prepare, FileSystem.local, bind, StateT.bind, hd, he]
      rfl
    · cases there with
      | true =>
        refine Or.inr (Or.inl ⟨rfl, ?_⟩)
        simp only [place, hkind, prepare, FileSystem.local, bind, StateT.bind, hd, he]
        rfl
      | false =>
        refine Or.inr (Or.inr ⟨rfl, ?_⟩)
        simp only [place, hkind, prepare, FileSystem.local, bind, StateT.bind, hd, he]

/-- The directory of a file that is missing is on the way to where the file's path resolves to. -/
theorem addedFor_parent {raw : String} {site : List String} {l : Location}
    (hitem : Plan.normalize raw = .ok item.path) (hnone : top.bareAt? site = none)
    (hl : confine root top (Plan.parent item.path) = .ok l)
    (hsite : Direct top l → site <+: l.names) : AddedFor root top item site .empty := by
  refine ⟨Or.inl rfl, fun hroot hstrays => ⟨?_, Or.inl rfl⟩⟩
  obtain ⟨names, last, hpath, hparent, hnames⟩ := parse_of_normalize hitem
  have hsplit : namesIn root item.path = namesIn root (Plan.parent item.path) ++ [last] := by
    rw [namesIn, namesIn, hpath, hparent]
    exact (List.append_assoc root.names names [last]).symm
  have hplain : ∀ name ∈ namesIn root (Plan.parent item.path) ++ [last], IsPlain name := by
    intro name hname
    rw [← hsplit, namesIn, hpath] at hname
    rcases List.mem_append.1 hname with hm | hm
    · exact hroot.plain name hm
    · exact hnames name hm
  have hspeaking : Speaking (namesIn root (Plan.parent item.path)) :=
    fun name hname => (hplain name (List.mem_append_left _ hname)).1
  have hlast := hplain last (by simp)
  rw [hsplit] at hstrays
  have hdirect := (direct_of_confine hroot (not_strays_of_concat hspeaking hlast hstrays) hl).1
  have hfront : site <+: l.names := hsite hdirect
  -- what is missing on the way to the directory has nothing below it
  have hfree : top.linkAt? (l.names ++ [last]) = none := by
    rw [Option.eq_none_iff_forall_ne_some]
    intro target hlink
    obtain ⟨rest, hrest⟩ := hfront
    have hbare := (linkAt?_eq_some_iff.1 hlink).2
    rw [← hrest, List.append_assoc] at hbare
    rw [bareAt?_of_append (by simp) hbare] at hnone
    cases hnone
  rw [← names_of_confine hroot hl] at hfront hfree
  rw [resolvedNames, hsplit,
    resolveNames_concat (hroot.clear [] List.nil_prefix) hspeaking hlast hfree]
  exact hfront.trans (List.prefix_append _ _)

/-- An item adds what it allows. -/
theorem adds_place (root : Location) (top : Node) {raw : String}
    (hitem : Plan.normalize raw = .ok item.path) :
    Adds (AddedFor root top item) top (place (.local root) item top).2 := by
  cases hkind : item.kind with
  | directory =>
    rw [place_directory hkind]
    refine (adds_createDirectoryIn root item.path top).mono ?_
    rintro site _ - ⟨rfl, l, hl, hsite⟩
    refine ⟨Or.inl rfl, fun hroot hstrays => ⟨?_, Or.inl rfl⟩⟩
    rw [resolvedNames, names_of_confine hroot hl]
    exact hsite (direct_of_confine hroot hstrays hl).1
  | file =>
    have hparent : Adds (AddedFor root top item) top
        (createDirectoryIn root (Plan.parent item.path) top).2 := by
      refine (adds_createDirectoryIn root (Plan.parent item.path) top).mono ?_
      rintro site _ hnone ⟨rfl, l, hl, hsite⟩
      exact addedFor_parent hitem hnone hl hsite
    rcases place_file_cases hkind root top with ⟨f, mid, hmid, hplace⟩ |
      ⟨mid, hmid, ⟨f, hplace⟩ | ⟨-, hplace⟩ | ⟨hmissing, hplace⟩⟩ <;> rw [hplace] <;>
      rw [hmid] at hparent
    · exact hparent
    · exact hparent
    · exact hparent
    · refine hparent.trans ((adds_writeFileIn hmissing _).mono ?_)
      rintro site _ - ⟨rfl, l, hl, hsite⟩
      refine ⟨Or.inr ⟨hkind, rfl⟩, fun hroot hstrays => ?_⟩
      -- the path resolves in the tree with the directory as it did before
      rw [← hparent.strays_iff] at hstrays
      have hroot' := hparent.direct hroot
      have hnames : resolvedNames root top item = l.names := by
        rw [resolvedNames, ← hparent.resolveNames_eq, names_of_confine hroot' hl]
      rw [hnames, hsite (direct_of_confine hroot' hstrays hl).1]
      exact ⟨List.prefix_refl _, Or.inr rfl⟩

/-- An item that was made is there. -/
theorem isThere_of_place (hroot : top.bareAt? [] = some .directory)
    (h : place (.local root) item top = (.ok (), top')) : IsThere root top' item := by
  unfold IsThere
  cases hkind : item.kind with
  | directory =>
    rw [place_directory hkind] at h
    exact isDirectoryAt_of_createDirectoryIn hroot h
  | file =>
    rcases place_file_cases hkind root top with ⟨f, mid, -, hplace⟩ |
      ⟨mid, hmid, ⟨f, hplace⟩ | ⟨hthere, hplace⟩ | ⟨hmissing, hplace⟩⟩ <;> rw [hplace] at h
    · cases h
    · cases h
    · cases h
      exact hthere
    · have hkeeps := keeps_createDirectoryIn root (Plan.parent item.path) top
      rw [hmid] at hkeeps
      exact existsIn_of_writeFileIn (hkeeps [] _ hroot) hmissing h

end

/-! ### The items of a plan -/

section

variable {ρ : Type} [Log.Journal ρ] {root : Location} {items : List Plan.Item}
  {w w' : World Node ρ} {made : Made}

/-- A pass that comes to its end adds nodes, and nothing else. -/
theorem adds_materialize (hitems : ∀ item ∈ items, ∃ raw, Plan.normalize raw = .ok item.path)
    (h : materialize (.local root) items w = (.ok made, w')) :
    Adds (fun _ _ => True) w.files w'.files := by
  induction items generalizing w made with
  | nil =>
    cases h
    exact .nothing
  | cons item items ih =>
    obtain ⟨w₁, others, hfiles, hothers, -⟩ := materialize_cons_eq_ok h
    obtain ⟨raw, hraw⟩ := hitems item List.mem_cons_self
    have hone : Adds (fun _ _ => True) w.files w₁.files := by
      rw [hfiles]
      exact (adds_place root w.files hraw).mono fun _ _ _ _ => trivial
    exact hone.trans (ih (fun i hi => hitems i (List.mem_cons_of_mem item hi)) hothers)

theorem IsThere.mono {allowed : List String → Node → Prop} {old new : Node} {item : Plan.Item}
    (hadds : Adds allowed old new) (h : IsThere root old item) : IsThere root new item := by
  unfold IsThere at h ⊢
  cases hkind : item.kind with
  | directory =>
    rw [hkind] at h
    obtain ⟨l, hl, hdirectory⟩ := h
    have hthere := isDirectoryAt_keeps hadds.keeps hdirectory
    refine ⟨l, hadds.confine hl fun hloop => ?_, hthere⟩
    rw [Node.isDirectoryAt, hloop] at hthere
    cases hthere
  | file =>
    rw [hkind] at h
    exact hadds.existsIn h

/-- Items that are reported as made are there when the pass is over. -/
theorem isThere_of_materialize (hnodup : (items.map Plan.Item.path).Nodup)
    (hitems : ∀ item ∈ items, ∃ raw, Plan.normalize raw = .ok item.path)
    (hroot : w.files.bareAt? [] = some .directory)
    (h : materialize (.local root) items w = (.ok made, w')) :
    ∀ item ∈ items, item.path ∈ made.created → IsThere root w'.files item := by
  induction items generalizing w made with
  | nil => exact fun item hitem => absurd hitem List.not_mem_nil
  | cons first items ih =>
    obtain ⟨w₁, others, hfiles, hothers, hreport, -⟩ := materialize_cons_eq_ok h
    rw [List.map_cons, List.nodup_cons] at hnodup
    have hrest : ∀ item ∈ items, ∃ raw, Plan.normalize raw = .ok item.path := fun item hitem =>
      hitems item (List.mem_cons_of_mem first hitem)
    have hroot₁ : w₁.files.bareAt? [] = some .directory := by
      rw [hfiles]
      exact keeps_place root first w.files [] _ hroot
    have hafter := ih hnodup.2 hrest hroot₁ hothers
    intro item hitem hcreated
    rcases hreport with ⟨hok, rfl⟩ | ⟨reason, rfl⟩
    · rcases List.mem_cons.1 hitem with rfl | hmem
      · have hplace : place (.local root) item w.files = (.ok (), w₁.files) :=
          Prod.ext hok hfiles.symm
        exact (isThere_of_place hroot hplace).mono (adds_materialize hrest hothers)
      · rcases List.mem_cons.1 hcreated with hpath | hcreated
        · exact absurd (hpath ▸ List.mem_map_of_mem hmem) hnodup.1
        · exact hafter item hmem hcreated
    · rcases List.mem_cons.1 hitem with rfl | hmem
      · exact absurd ((sublist_of_materialize items hothers).1.subset hcreated) hnodup.1
      · exact hafter item hmem hcreated

/-- A node that is new after a pass was added at the turn of one of the items. -/
theorem exists_turn_of_materialize (h : materialize (.local root) items w = (.ok made, w'))
    {site : List String} {b : Bare} (hold : w.files.bareAt? site = none)
    (hnew : w'.files.bareAt? site = some b) : ∃ item, AddedInTurn root items w item site b := by
  induction items generalizing w made with
  | nil =>
    cases h
    rw [hold] at hnew
    cases hnew
  | cons first items ih =>
    obtain ⟨w₁, others, hfiles, hothers, -, hfront⟩ := materialize_cons_eq_ok h
    cases hmid : w₁.files.bareAt? site with
    | none =>
      obtain ⟨item, front, back, made₁, w₂, rfl, hmade, hnone, hsome⟩ := ih hothers hmid
      obtain ⟨made₂, hmade⟩ := hfront front made₁ w₂ hmade
      exact ⟨item, first :: front, back, made₂, w₂, rfl, hmade, hnone, hsome⟩
    | some b' =>
      have hkeeps := keeps_materialize root items w₁ site b' hmid
      rw [hothers, hnew, Option.some_inj] at hkeeps
      refine ⟨first, [], items, .empty, w, rfl, rfl, hold, ?_⟩
      rw [← hfiles, hmid, hkeeps]

/-- A pass comes to its end if each item is made or refused by the file system. -/
theorem materialize_returns (h : RefusesOnly root items w) :
    ∃ made w', materialize (.local root) items w = (.ok made, w') := by
  rcases hr : materialize (.local root) items w with ⟨f | made, w'⟩
  · have herror : (materialize (.local root) items w).1 = .error f := by rw [hr]
    obtain ⟨front, item, back, made, w₁, hsplit, hfront, hstops⟩ :=
      (materialize_error_iff items w).1 herror
    rcases place_local root item w₁.files with ⟨f', top, -, hnone, hplace⟩ | ⟨hno, -⟩
    · obtain ⟨path, reason, rfl⟩ := h front item back made w₁ f' hsplit hfront (by rw [hplace])
      cases hnone
    · exact absurd hstops (hno f)
  · exact ⟨made, w', rfl⟩

end

/-! ### Without links -/

section

variable {ρ : Type} [Log.Journal ρ] {root : List String} {items : List Plan.Item}
  {w : World Node ρ} {top : Node} {item : Plan.Item}

/-- In a workspace without links, only U+0000 in its path can stop an item. -/
theorem not_itemStops_linkless (h : Linkless top root) {raw : String}
    (hitem : Plan.normalize raw = .ok item.path) (hnul : '\x00' ∉ item.path.toList) (f : Failure) :
    ¬ ItemStops (.top root) top item f := by
  obtain ⟨names, last, hpath, hparent⟩ := spelled_of_normalize hitem hnul
  unfold ItemStops
  split
  · exact not_unresolvable_linkless h hpath f
  · exact not_stops_linkless h hpath hparent f

theorem refusesOnly_linkless (h : Linkless w.files root)
    (hitems : ∀ item ∈ items, (∃ raw, Plan.normalize raw = .ok item.path) ∧
      '\x00' ∉ item.path.toList) : RefusesOnly (.top root) items w := by
  rintro front item back made w₁ f rfl hfront herror
  have hadds : Adds (fun _ _ => True) w.files w₁.files :=
    adds_materialize (fun i hi => (hitems i (List.mem_append_left _ hi)).1) hfront
  have hfree : Linkless w₁.files root := ⟨hadds.keeps [] _ h.directory, h.plain, h.noNul,
    fun site target hsite hlink => h.noLink site target hsite (hadds.link hlink)⟩
  obtain ⟨⟨raw, hraw⟩, hnul⟩ := hitems item (by simp)
  rcases place_local (.top root) item w₁.files with ⟨f', top, hstops, -⟩ |
    ⟨-, ⟨path, reason, top, hplace⟩ | ⟨top, hplace⟩⟩
  · exact absurd hstops (not_itemStops_linkless hfree hraw hnul f')
  · rw [hplace] at herror
    cases herror
    exact ⟨path, reason, rfl⟩
  · rw [hplace] at herror
    cases herror

end

/-! ### A whole plan -/

/-- Making some of the items of a plan, each of which is made or refused by the file system, comes
to its end. Each item is reported once, in order, as made or as refused, and what was made is
there. What the pass adds are directories and empty files. Each of these was added at the turn of
an item: it is where the item's path resolves to, or a directory above that, unless the path
strays, or that of the root. -/
theorem materialize_makes {ρ : Type} [Log.Journal ρ] (entries : List (String × Node))
    (names : List String) (rest : ρ) {root : Location} {reply : Json} {items : List Plan.Item}
    (hroot : (Node.directory entries).resolveNames names = root)
    (hitems : items.Sublist (Plan.build reply))
    (hrefuses : RefusesOnly root items ⟨.directory entries, rest⟩) :
    ∃ made w', materialize (.local root) items ⟨.directory entries, rest⟩ = (.ok made, w') ∧
      made.created.Sublist (items.map Plan.Item.path) ∧
      (made.failed.map FailedPath.path).Sublist (items.map Plan.Item.path) ∧
      List.Perm made.all (items.map Plan.Item.path) ∧
      (∀ item ∈ items, item.path ∈ made.created → IsThere root w'.files item) ∧
      ∀ site b, (Node.directory entries).bareAt? site = none → w'.files.bareAt? site = some b →
        (b = .directory ∨ b = .file .empty) ∧
        ∃ item, AddedInTurn root items ⟨.directory entries, rest⟩ item site b ∧
          (¬ Strays (.directory entries) names →
            ¬ Strays (.directory entries) (namesIn root item.path) →
            site <+: resolvedNames root (.directory entries) item ∧
              (b = .directory ∨ site = resolvedNames root (.directory entries) item)) := by
  have hplanned : ∀ item ∈ items, ∃ raw, Plan.normalize raw = .ok item.path := fun item hitem =>
    Plan.exists_raw_of_mem_build (List.mem_map_of_mem (hitems.subset hitem))
  have hnodup : (items.map Plan.Item.path).Nodup :=
    (Plan.nodup_paths_build reply).sublist (hitems.map Plan.Item.path)
  obtain ⟨made, w', hmade⟩ := materialize_returns hrefuses
  refine ⟨made, w', hmade, (sublist_of_materialize items hmade).1,
    (sublist_of_materialize items hmade).2, perm_of_materialize items hmade,
    isThere_of_materialize hnodup hplanned rfl hmade, fun site b hold hnew => ?_⟩
  obtain ⟨item, hturn⟩ := exists_turn_of_materialize hmade hold hnew
  obtain ⟨front, back, made₁, w₁, hsplit, hfront, hnone, hsome⟩ := hturn
  have hitem : item ∈ items := by simp [hsplit]
  obtain ⟨raw, hraw⟩ := hplanned item hitem
  obtain ⟨leaf, -, hadded, rfl⟩ := (adds_place root w₁.files hraw).exists_leaf hnone hsome
  refine ⟨?_, item, ⟨front, back, made₁, w₁, hsplit, hfront, hnone, hsome⟩,
    fun hnames hstrays => ?_⟩
  · rcases hadded.content with rfl | ⟨hkind, rfl⟩
    · exact Or.inl rfl
    · have hcontent := Plan.content_of_mem_build (hitems.subset hitem)
      rw [if_pos hkind] at hcontent
      rw [hcontent]
      exact Or.inr rfl
  · -- paths resolve at the item's turn as they did at the start
    have hadds : Adds (fun _ _ => True) (.directory entries) w₁.files :=
      adds_materialize (fun i hi => hplanned i (by simp [hsplit, hi])) hfront
    have htop : (Node.directory entries).linkAt? [] = none := by
      rw [Node.linkAt?, Node.get?_nil]
      split <;> rfl
    have hdirect : Direct (.directory entries) root := hroot ▸ direct_resolveNames htop hnames
    have hway := hadded.onWay (hadds.direct hdirect) fun h => hstrays (hadds.strays_iff.1 h)
    rw [resolvedNames, hadds.resolveNames_eq] at hway
    exact ⟨hway.1, hway.2.imp_left (congrArg Node.bare)⟩

/-- Two items of a plan of three, in a workspace where a file stands in the way of the first one. -/
theorem materialize_makes_around_file :
    let entries : List (String × Node) := [("ws", .directory [("src", .file .empty)])]
    let reply : Json := .object [("paths", .array [.text "src/", .text "docs/"]),
      ("files", .array [.text "docs/a.md"])]
    let items : List Plan.Item := [⟨"src", .directory, none⟩, ⟨"docs/a.md", .file, some ""⟩]
    (Node.directory entries).resolveNames ["ws"] = .top ["ws"] ∧
      items.Sublist (Plan.build reply) ∧
      RefusesOnly (.top ["ws"]) items (⟨.directory entries, []⟩ : World Node (List Log.Record)) ∧
      ∃ made w', materialize (.local (.top ["ws"])) items ⟨.directory entries, []⟩ =
          (.ok made, (w' : World Node (List Log.Record))) ∧
        List.Perm made.all ["src", "docs/a.md"] ∧
        ∀ item ∈ items, item.path ∈ made.created → IsThere (.top ["ws"]) w'.files item := by
  intro entries reply items
  have hroot : (Node.directory entries).resolveNames ["ws"] = .top ["ws"] := by decide +kernel
  have hitems : items.Sublist (Plan.build reply) := by decide +kernel
  have hrefuses : RefusesOnly (.top ["ws"]) items
      (⟨.directory entries, []⟩ : World Node (List Log.Record)) := by
    refine refusesOnly_linkless ⟨rfl, fun name hm => ?_, by decide,
      fun site target _ => ne_link_of_linkCount rfl⟩ fun item hitem => ?_
    · rw [List.mem_singleton.1 hm]
      exact ⟨by decide, by decide⟩
    · refine ⟨Plan.exists_raw_of_mem_build (List.mem_map_of_mem (hitems.subset hitem)), ?_⟩
      revert item
      decide
  obtain ⟨made, w', hmade, -, -, hall, hthere, -⟩ :=
    materialize_makes entries ["ws"] [] hroot hitems hrefuses
  exact ⟨hroot, hitems, hrefuses, made, w', hmade, hall, hthere⟩

/-! ### A path that strays -/

/-- A root with a link to itself, a link to a missing file outside, and a link that leads over the
first one to the second. -/
def strayTree : Node :=
  .directory [("ws", .directory [("loop", .link "loop"), ("way", .link "../secret"),
    ("a", .link "loop/../way")])]

/-- A reply with one file. -/
def oneFile : Json := .object [("files", .array [.text "a"])]

theorem locate_strayTree (followLast : Bool) :
    strayTree.locate followLast ⟨1, ["ws"]⟩ = .ok ⟨["ws"], strayTree.get? ["ws"]⟩ ∧
      strayTree.locate true ⟨1, ["ws", "way"]⟩ = .ok ⟨["secret"], none⟩ := by
  have hshort : ¬ Node.pathLimit < (Location.text ⟨1, ["ws"]⟩).utf8ByteSize := by decide +kernel
  have hlong : ¬ Node.pathLimit < (Location.text ⟨1, ["ws", "way"]⟩).utf8ByteSize := by
    decide +kernel
  have hws : ¬ Node.nameLimit < "ws".utf8ByteSize := by decide
  have hway : ¬ Node.nameLimit < "way".utf8ByteSize := by decide
  have hsecret : ¬ Node.nameLimit < "secret".utf8ByteSize := by decide
  have htarget : Node.targetNames "../secret" = ["..", "secret"] := by decide +kernel
  have hrelative : (Location.parse "../secret").isAbsolute = false := by decide +kernel
  constructor
  · simp [Node.locate, hshort, Node.walk, hws, strayTree, Node.get?, Node.lookup]
  · simp [Node.locate, hlong, Node.walk, hws, hway, hsecret, htarget, hrelative, Node.linkBudget,
      strayTree, Node.get?, Node.lookup]

theorem place_strayTree :
    place (.local ⟨1, ["ws"]⟩) ⟨"a", .file, some ""⟩ strayTree =
      (.ok (), strayTree.put ["secret"] (.file .empty)) := by
  obtain ⟨-, hway⟩ := locate_strayTree true
  have hws : strayTree.get? ["ws"] = some (.directory [("loop", .link "loop"),
      ("way", .link "../secret"), ("a", .link "loop/../way")]) := rfl
  have hnot : strayTree.makeDirectory ⟨1, ["ws"]⟩ = .error .entryExists := by
    simp only [Node.makeDirectory, (locate_strayTree false).1, hws, bind, Except.bind]
    rfl
  have hthere : strayTree.isDirectoryAt ⟨1, ["ws"]⟩ = true := by
    simp only [Node.isDirectoryAt, Node.stat, (locate_strayTree true).1, hws, bind, Except.bind]
    rfl
  have hmade : createDirectoryIn ⟨1, ["ws"]⟩ "" strayTree = (.ok (), strayTree) := by
    have hl : confine ⟨1, ["ws"]⟩ strayTree "" = .ok ⟨1, ["ws"]⟩ := rfl
    simp only [createDirectoryIn, hl, Node.ensureDirectories, Node.ensureDirectoriesUpTo, hnot,
      Node.ensureDirectory, hthere, if_true]
  have hl : confine ⟨1, ["ws"]⟩ strayTree "a" = .ok ⟨1, ["ws", "way"]⟩ := by
    refine confine_eq_ok_iff.2 (Or.inr
      ⟨by decide, by decide +kernel, by decide +kernel, ?_, by decide⟩)
    simp [Node.stat, hway, bind, Except.bind, throw, throwThe, MonadExceptOf.throw]
  have hmissing : existsIn ⟨1, ["ws"]⟩ "a" strayTree = .ok false := by
    simp only [existsIn, hl, Node.stat, hway, bind, Except.bind]
    rfl
  have hwrite : writeFileIn ⟨1, ["ws"]⟩ "a" "".toUTF8 strayTree =
      (.ok (), strayTree.put ["secret"] (.file .empty)) := by
    simp only [writeFileIn, hl, Node.write, hway, bind, Except.bind]
    rfl
  have hparent : Plan.parent "a" = "" := by decide
  simp only [place, prepare, FileSystem.local, bind, StateT.bind, hparent, hmade, hmissing]
  exact hwrite

/-- A file is made outside the root, where no item's path resolves to. -/
theorem strayTree_added_outside :
    ∃ w', materialize (.local (strayTree.resolveNames ["ws"])) (Plan.build oneFile)
        (⟨strayTree, []⟩ : World Node (List Log.Record)) = (.ok ⟨["a"], []⟩, w') ∧
      strayTree.bareAt? ["secret"] = none ∧ w'.files.bareAt? ["secret"] = some (.file .empty) ∧
      ∀ item ∈ Plan.build oneFile,
        ¬ ["secret"] <+: resolvedNames (strayTree.resolveNames ["ws"]) strayTree item := by
  have hroot : strayTree.resolveNames ["ws"] = ⟨1, ["ws"]⟩ := by decide +kernel
  have hplan : Plan.build oneFile = [⟨"a", .file, some ""⟩] := by decide +kernel
  rw [hroot, hplan]
  refine ⟨_, materialize_of_made place_strayTree [], rfl, ?_, ?_⟩
  · rw [strayTree, Node.put]
    rfl
  · intro item hitem
    rw [List.mem_singleton.1 hitem]
    have hnames : strayTree.resolveNames (namesIn ⟨1, ["ws"]⟩ "a") = ⟨1, ["ws", "way"]⟩ := by
      decide +kernel
    rw [resolvedNames, hnames]
    decide

end Scaffold.Orchestration
