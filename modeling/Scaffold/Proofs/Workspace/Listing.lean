import Scaffold.Proofs.Sequence
import Scaffold.Proofs.Text.Split
import Scaffold.Proofs.Workspace.Walk
import Scaffold.Workspace.Listing

/-!
# What a walk lists

A walk through a tree lists paths, and a path stands for the names between its slashes. In a tree
whose names are names (`WellNamed`),

* the paths come with the files of a directory first and then what its subdirectories hold, both by
  name (`pairwise_pathsBelow`), which is an order (`FilesFirst.asymm`);
* they are those of the files that are not excluded, and lie in no directory that is, nor in one
  whose own path is too long (`mem_pathsBelow`).

Both together determine the list (`eq_of_filesFirst`), so that no other order of the entries of a
directory leads to another one.
-/

namespace Scaffold.Workspace
open Scaffold.Text

/-! ### Names and paths -/

/-- An entry can have the name: it is not empty, and no slash is in it. -/
structure IsName (name : String) : Prop where
  ne_empty : name ≠ ""
  noSlash : '/' ∉ name.toList

instance (name : String) : Decidable (IsName name) :=
  decidable_of_iff (name ≠ "" ∧ '/' ∉ name.toList) ⟨fun h => ⟨h.1, h.2⟩, fun h => ⟨h.1, h.2⟩⟩

/-- Each directory has an entry for each name, once, and its entries have names. -/
inductive WellNamed : Node → Prop
  | file (content : ByteArray) : WellNamed (.file content)
  | link (target : String) : WellNamed (.link target)
  | directory {entries : List (String × Node)} : (∀ entry ∈ entries, IsName entry.1) →
      (entries.map Prod.fst).Nodup → (∀ entry ∈ entries, WellNamed entry.2) →
      WellNamed (.directory entries)

/-- The path of names. -/
def pathOf (names : List String) : String := "/".intercalate names

section

variable {names front : List String} {name : String}

theorem pathOf_cons_cons (name next : String) (rest : List String) :
    pathOf (name :: next :: rest) = name ++ "/" ++ pathOf (next :: rest) :=
  String.intercalate_cons_cons

/-- A path is made of its names. -/
theorem piecesOf_pathOf (hne : names ≠ []) (h : ∀ name ∈ names, IsName name) :
    Location.piecesOf (pathOf names) = names := by
  induction names with
  | nil => exact absurd rfl hne
  | cons name rest ih =>
    have hname := (h name List.mem_cons_self).noSlash
    cases rest with
    | nil => simp [pathOf, Location.piecesOf, splitOn_of_not_mem hname]
    | cons next rest =>
      have hrest := ih (List.cons_ne_nil next rest) fun n hn => h n (List.mem_cons_of_mem name hn)
      have htext : (pathOf (name :: next :: rest)).toList =
          name.toList ++ '/' :: (pathOf (next :: rest)).toList := by
        simp [pathOf_cons_cons]
      rw [Location.piecesOf, htext, splitOn_append hname, List.map_cons, String.ofList_toList]
      exact congrArg (name :: ·) hrest

theorem isName_concat (hfront : ∀ other ∈ front, IsName other) (hname : IsName name) :
    ∀ other ∈ front ++ [name], IsName other := by
  intro other ho
  rcases List.mem_append.1 ho with ho | ho
  · exact hfront other ho
  · rwa [List.mem_singleton.1 ho]

theorem pathOf_append (hfront : front ≠ []) (hnames : names ≠ []) :
    pathOf (front ++ names) = pathOf front ++ "/" ++ pathOf names :=
  String.intercalate_append_of_ne_nil hfront hnames

theorem pathOf_ne_empty (hne : names ≠ []) (h : ∀ name ∈ names, IsName name) :
    pathOf names ≠ "" := by
  intro he
  have hpieces := piecesOf_pathOf hne h
  rw [he] at hpieces
  have hempty : "" ∈ names := hpieces ▸ List.mem_cons_self
  exact (h "" hempty).ne_empty rfl

/-- The path of an entry of a directory that was entered. -/
theorem relative_pathOf (h : ∀ name ∈ front, IsName name) (name : String) :
    relative (pathOf front) name = pathOf (front ++ [name]) := by
  by_cases hfront : front = []
  · subst hfront
    rfl
  · rw [relative, if_neg (by simpa using pathOf_ne_empty hfront h),
      pathOf_append hfront (List.cons_ne_nil name [])]
    rfl

end

/-! ### The order of a walk -/

/-- Names of a file before names of another one: the files of a directory come first, by name, and
then what lies in its subdirectories, by their names. -/
inductive Before : List String → List String → Prop
  | file {a b : String} : a < b → Before [a] [b]
  | above {a b c : String} {rest : List String} : Before [a] (b :: c :: rest)
  | directory {a b c d : String} {rest rest' : List String} : a < b →
      Before (a :: c :: rest) (b :: d :: rest')
  | inside {a : String} {rest rest' : List String} : Before rest rest' →
      Before (a :: rest) (a :: rest')

section

variable {a b front : List String}

theorem Before.ne_nil (h : Before a b) : a ≠ [] ∧ b ≠ [] := by
  cases h <;> simp

theorem Before.asymm (h : Before a b) : ¬ Before b a := by
  induction h with
  | file hlt =>
    intro h
    cases h with
    | file hgt => exact String.lt_asymm hlt hgt
    | inside h => exact h.ne_nil.1 rfl
  | above =>
    intro h
    cases h with
    | inside h => exact h.ne_nil.2 rfl
  | directory hlt =>
    intro h
    cases h with
    | directory hgt => exact String.lt_asymm hlt hgt
    | inside h => exact String.lt_irrefl _ hlt
  | inside h ih =>
    intro h'
    cases h' with
    | file hlt => exact h.ne_nil.1 rfl
    | above => exact h.ne_nil.2 rfl
    | directory hlt => exact String.lt_irrefl _ hlt
    | inside h' => exact ih h'

theorem Before.append (h : Before a b) (front : List String) :
    Before (front ++ a) (front ++ b) := by
  induction front with
  | nil => exact h
  | cons name front ih => exact .inside ih

end

/-- A path before another one on a walk. -/
def FilesFirst (path path' : String) : Prop :=
  Before (Location.piecesOf path) (Location.piecesOf path')

theorem FilesFirst.asymm {path path' : String} (h : FilesFirst path path') :
    ¬ FilesFirst path' path := Before.asymm h

theorem nodup_of_filesFirst {paths : List String} (h : paths.Pairwise FilesFirst) :
    paths.Nodup := by
  refine h.imp fun hbefore he => ?_
  subst he
  exact hbefore.asymm hbefore

/-- Paths in this order are known when their members are. -/
theorem eq_of_filesFirst {paths paths' : List String} (h : paths.Pairwise FilesFirst)
    (h' : paths'.Pairwise FilesFirst) (hmem : ∀ path, path ∈ paths ↔ path ∈ paths') :
    paths = paths' := by
  have hperm : paths.Perm paths' :=
    (List.perm_ext_iff_of_nodup (nodup_of_filesFirst h) (nodup_of_filesFirst h')).2 hmem
  exact List.Perm.eq_of_pairwise (fun _ _ _ _ hab hba => absurd hba hab.asymm) h h' hperm

theorem filesFirst_pathOf {front a b : List String} (hfront : ∀ name ∈ front ++ a, IsName name)
    (hback : ∀ name ∈ front ++ b, IsName name) (h : Before a b) :
    FilesFirst (pathOf (front ++ a)) (pathOf (front ++ b)) := by
  obtain ⟨ha, hb⟩ := h.ne_nil
  rw [FilesFirst, piecesOf_pathOf (by simp [ha]) hfront, piecesOf_pathOf (by simp [hb]) hback]
  exact h.append front

/-! ### The entries of a directory -/

section

variable {entries : List (String × Node)} {name : String} {n : Node}

theorem lookup_eq_some_iff (hnodup : (entries.map Prod.fst).Nodup) :
    Node.lookup name entries = some n ↔ (name, n) ∈ entries := by
  induction entries with
  | nil => simp [Node.lookup]
  | cons entry entries ih =>
    obtain ⟨k, m⟩ := entry
    rw [List.map_cons, List.nodup_cons] at hnodup
    by_cases hk : k = name
    · subst hk
      have hnot : (k, n) ∉ entries := fun hm =>
        hnodup.1 (List.mem_map.2 ⟨(k, n), hm, rfl⟩)
      simp [Node.lookup, hnot, eq_comm]
    · simp [Node.lookup, hk, ih hnodup.2, Ne.symm hk]

/-- A tree of which each directory is well named. -/
theorem WellNamed.get? {top : Node} {place : List String} (h : WellNamed top)
    (hn : top.get? place = some n) : WellNamed n ∧ ∀ name ∈ place, IsName name := by
  induction place generalizing top with
  | nil =>
    rw [Node.get?_nil] at hn
    cases hn
    exact ⟨h, by simp⟩
  | cons name place ih =>
    cases h with
    | file content => cases hn
    | link target => cases hn
    | @directory entries hnames hnodup hinner =>
      rw [Node.get?_directory_cons] at hn
      obtain ⟨m, hm, hn⟩ := Option.bind_eq_some_iff.1 hn
      have hmem := (lookup_eq_some_iff hnodup).1 hm
      obtain ⟨hwell, hplace⟩ := ih (hinner _ hmem) hn
      exact ⟨hwell, List.forall_mem_cons.2 ⟨hnames _ hmem, hplace⟩⟩

end

/-- What a walk makes of an entry that is not excluded. -/
def visitOf (top : Node) (exclude here : List String) (above name : String) : Node → Visit
  | .file _ => .file
  | .link _ => if top.isDirectoryAt (.top (here ++ [name])) then .passed else .file
  | .directory inner => .entered
      (top.pathsBelow exclude (here ++ [name]) (relative above name) (.directory inner))

theorem visitsOf_eq (top : Node) (exclude here : List String) (above : String)
    (entries : List (String × Node)) :
    top.visitsOf exclude here above entries = entries.filterMap fun (name, n) =>
      if Glob.excludes exclude (relative above name) = true then none
      else some (name, visitOf top exclude here above name n) := by
  induction entries with
  | nil => rw [Node.visitsOf, List.filterMap_nil]
  | cons entry entries ih =>
    obtain ⟨name, n⟩ := entry
    by_cases hex : Glob.excludes exclude (relative above name) = true
    · cases n <;> simp [Node.visitsOf, ih, hex]
    · cases n <;> simp [Node.visitsOf, ih, hex, visitOf]

section

variable {top : Node} {exclude here : List String} {above : String}
  {entries : List (String × Node)} {name : String} {visit : Visit}

theorem mem_visitsOf : (name, visit) ∈ top.visitsOf exclude here above entries ↔
    ∃ n, (name, n) ∈ entries ∧ Glob.excludes exclude (relative above name) = false ∧
      visit = visitOf top exclude here above name n := by
  rw [visitsOf_eq, List.mem_filterMap]
  constructor
  · rintro ⟨⟨k, n⟩, hmem, hvisit⟩
    dsimp only at hvisit
    split at hvisit
    · cases hvisit
    · next hex =>
      cases hvisit
      exact ⟨n, hmem, by simpa using hex, rfl⟩
  · rintro ⟨n, hmem, hex, rfl⟩
    exact ⟨(name, n), hmem, by simp [hex]⟩

/-- What is visited has the names of the entries that are not excluded. -/
theorem map_fst_visitsOf : (top.visitsOf exclude here above entries).map Prod.fst =
    (entries.map Prod.fst).filter fun name => !Glob.excludes exclude (relative above name) := by
  rw [visitsOf_eq]
  induction entries with
  | nil => rfl
  | cons entry entries ih =>
    by_cases hex : Glob.excludes exclude (relative above entry.1) = true <;> simp [hex, ih]

/-- The paths of a directory: those of its files, and those found in what was entered. -/
theorem mem_inOrder {visits : List (String × Visit)} {path : String} :
    path ∈ inOrder above visits ↔ (∃ name, (name, .file) ∈ visits ∧ path = relative above name) ∨
      ∃ name below, (name, .entered below) ∈ visits ∧ path ∈ below := by
  have hsorted : ∀ entry, entry ∈ sortByName visits ↔ entry ∈ visits := fun entry =>
    List.mem_mergeSort
  simp only [inOrder, List.mem_append, List.mem_filterMap, List.mem_flatMap, hsorted]
  refine or_congr ?_ ?_
  · constructor
    · rintro ⟨⟨name, visit⟩, hmem, hpath⟩
      cases visit <;> cases hpath
      exact ⟨name, hmem, rfl⟩
    · rintro ⟨name, hmem, rfl⟩
      exact ⟨(name, .file), hmem, rfl⟩
  · constructor
    · rintro ⟨⟨name, visit⟩, hmem, hpath⟩
      cases visit with
      | file => cases hpath
      | entered below => exact ⟨name, below, hmem, hpath⟩
      | passed => cases hpath
    · rintro ⟨name, below, hmem, hpath⟩
      exact ⟨(name, .entered below), hmem, hpath⟩

/-- A relation holds along the paths of a directory if it holds along those found in each
subdirectory, between files, between subdirectories, and from files to what is in subdirectories. -/
theorem pairwise_inOrder {R : String → String → Prop} {visits : List (String × Visit)}
    (hnodup : (visits.map Prod.fst).Nodup)
    (hfiles : ∀ a b, (a, .file) ∈ visits → (b, .file) ∈ visits → a < b →
      R (relative above a) (relative above b))
    (habove : ∀ a b below path, (a, .file) ∈ visits → (b, .entered below) ∈ visits →
      path ∈ below → R (relative above a) path)
    (hdirectories : ∀ a b below below' path path', (a, .entered below) ∈ visits →
      (b, .entered below') ∈ visits → a < b → path ∈ below → path' ∈ below' → R path path')
    (hinside : ∀ a below, (a, .entered below) ∈ visits → below.Pairwise R) :
    (inOrder above visits).Pairwise R := by
  have hmem : ∀ entry, entry ∈ sortByName visits → entry ∈ visits := fun entry =>
    List.mem_mergeSort.1
  have hlt : (sortByName visits).Pairwise fun a b => a ∈ visits ∧ b ∈ visits ∧ a.1 < b.1 :=
    (pairwise_lt_mergeSort_on Prod.fst hnodup).imp_of_mem fun ha hb hab =>
      ⟨hmem _ ha, hmem _ hb, hab⟩
  simp only [inOrder]
  refine List.pairwise_append.2 ⟨?_, ?_, ?_⟩
  · refine List.pairwise_filterMap.2 (hlt.imp ?_)
    rintro ⟨a, visit⟩ ⟨b, visit'⟩ ⟨ha, hb, hab⟩ path hpath path' hpath'
    cases visit <;> cases hpath
    cases visit' <;> cases hpath'
    exact hfiles a b ha hb hab
  · refine List.pairwise_flatMap.2 ⟨?_, hlt.imp ?_⟩
    · rintro ⟨a, visit⟩ ha
      cases visit with
      | file => exact .nil
      | entered below => exact hinside a below (hmem _ ha)
      | passed => exact .nil
    · rintro ⟨a, visit⟩ ⟨b, visit'⟩ ⟨ha, hb, hab⟩ path hpath path' hpath'
      cases visit with
      | entered below =>
        cases visit' with
        | entered below' => exact hdirectories a b below below' path path' ha hb hab hpath hpath'
        | file => cases hpath'
        | passed => cases hpath'
      | file => cases hpath
      | passed => cases hpath
  · intro path hpath path' hpath'
    obtain ⟨⟨a, visit⟩, ha, hfile⟩ := List.mem_filterMap.1 hpath
    obtain ⟨⟨b, visit'⟩, hb, hbelow⟩ := List.mem_flatMap.1 hpath'
    cases visit <;> cases hfile
    cases visit' with
    | entered below => exact habove a b below path' (hmem _ ha) (hmem _ hb) hbelow
    | file => cases hbelow
    | passed => cases hbelow

end

/-! ### The files of a tree -/

/-- What stands at a place is listed as a file: it is one, or a link that leads to no directory. -/
def IsListed (top : Node) (place : List String) : Option Node → Prop
  | some (.file _) => True
  | some (.link _) => top.isDirectoryAt (.top place) = false
  | some (.directory _) | none => False

/-- The path is that of a listed file below a directory at `here`, whose own path has the names
`front`. The path to the file's directory is not too long; no directory on the way is excluded, nor
is the file. -/
def FoundBelow (top : Node) (exclude here front : List String) (n : Node) (path : String) : Prop :=
  ∃ names, names ≠ [] ∧ path = pathOf (front ++ names) ∧ Fits (here ++ names.dropLast) ∧
    IsListed top (here ++ names) (n.get? names) ∧
    ∀ part, part ≠ [] → part <+: names → Glob.excludes exclude (pathOf (front ++ part)) = false

section

variable {top n : Node} {exclude here front : List String} {path : String}

/-- Only a directory has something below it. -/
theorem not_foundBelow (hn : ∀ entries, n ≠ .directory entries) :
    ¬ FoundBelow top exclude here front n path := by
  rintro ⟨names, hne, -, -, hlisted, -⟩
  obtain ⟨name, rest, rfl⟩ := List.exists_cons_of_ne_nil hne
  cases n with
  | file content => exact hlisted
  | link target => exact hlisted
  | directory entries => exact hn entries rfl

/-- Nor is something found below one that the system does not list. -/
theorem not_foundBelow_of_long (hlong : ¬ Fits here) :
    ¬ FoundBelow top exclude here front n path := by
  rintro ⟨names, -, -, hfits, -⟩
  exact hlong (hfits.of_prefix (List.prefix_append _ _))

/-- Below a directory, the names begin with that of an entry. -/
theorem foundBelow_directory {entries : List (String × Node)}
    (hnodup : (entries.map Prod.fst).Nodup) (hhere : Fits here) :
    FoundBelow top exclude here front (.directory entries) path ↔
      ∃ name n, (name, n) ∈ entries ∧ Glob.excludes exclude (pathOf (front ++ [name])) = false ∧
        (path = pathOf (front ++ [name]) ∧ IsListed top (here ++ [name]) (some n) ∨
          FoundBelow top exclude (here ++ [name]) (front ++ [name]) n path) := by
  have hget : ∀ {name n}, (name, n) ∈ entries → ∀ rest,
      (Node.directory entries).get? (name :: rest) = n.get? rest := by
    intro name n hmem rest
    rw [Node.get?_directory_cons, (lookup_eq_some_iff hnodup).2 hmem, Option.bind_some]
  constructor
  · rintro ⟨names, hne, rfl, hfits, hlisted, hparts⟩
    obtain ⟨name, rest, rfl⟩ := List.exists_cons_of_ne_nil hne
    obtain ⟨n, hn⟩ : ∃ n, Node.lookup name entries = some n := by
      by_contra hno
      rw [Node.get?_directory_cons, Option.eq_none_iff_forall_ne_some.2 (not_exists.1 hno)]
        at hlisted
      exact hlisted
    have hmem := (lookup_eq_some_iff hnodup).1 hn
    refine ⟨name, n, hmem, hparts [name] (List.cons_ne_nil name []) (by simp), ?_⟩
    rw [hget hmem] at hlisted
    by_cases hrest : rest = []
    · subst hrest
      exact Or.inl ⟨rfl, by simpa using hlisted⟩
    · rw [List.dropLast_cons_of_ne_nil hrest] at hfits
      refine Or.inr ⟨rest, hrest, by simp, by simpa using hfits, by simpa using hlisted,
        fun part hp hpart => ?_⟩
      simpa using hparts (name :: part) (List.cons_ne_nil name part) (by simpa using hpart)
  · rintro ⟨name, n, hmem, hex, ⟨rfl, hlisted⟩ | ⟨rest, hrest, rfl, hfits, hlisted, hparts⟩⟩
    · refine ⟨[name], List.cons_ne_nil name [], rfl, by simpa using hhere, ?_,
        fun part hp hpart => ?_⟩
      · rwa [hget hmem, Node.get?_nil]
      · rcases List.prefix_cons_iff.1 hpart with rfl | ⟨rest, rfl, hrest⟩
        · exact absurd rfl hp
        · rwa [List.prefix_nil.1 hrest]
    · refine ⟨name :: rest, List.cons_ne_nil name rest, by simp, ?_, ?_, fun part hp hpart => ?_⟩
      · rw [List.dropLast_cons_of_ne_nil hrest]
        simpa using hfits
      · rw [hget hmem]
        simpa using hlisted
      · rcases List.prefix_cons_iff.1 hpart with rfl | ⟨part, rfl, hinside⟩
        · exact absurd rfl hp
        · by_cases hnil : part = []
          · rwa [hnil]
          · simpa using hparts part hnil hinside

/-- An entry that is a file of the walk. -/
theorem visitOf_eq_file {above name : String} :
    visitOf top exclude here above name n = .file ↔ IsListed top (here ++ [name]) (some n) := by
  cases n with
  | file content => simp [visitOf, IsListed]
  | link target => simp [visitOf, IsListed]
  | directory entries => simp [visitOf, IsListed]

/-- An entry is entered when it is a directory. -/
theorem visitOf_eq_entered {above name : String} {below : List String} :
    visitOf top exclude here above name n = .entered below ↔ ∃ entries, n = .directory entries ∧
      below = top.pathsBelow exclude (here ++ [name]) (relative above name) n := by
  cases n with
  | file content => simp [visitOf]
  | link target =>
    simp only [visitOf]
    split <;> simp
  | directory entries => simp [visitOf, eq_comm]

/-- The paths below a directory are those of the files that are not excluded. -/
theorem mem_pathsBelow (hn : WellNamed n) (hfront : ∀ name ∈ front, IsName name) :
    path ∈ top.pathsBelow exclude here (pathOf front) n ↔
      FoundBelow top exclude here front n path := by
  induction hn generalizing here front with
  | file content =>
    exact iff_of_false (by simp [Node.pathsBelow]) (not_foundBelow fun _ => by simp)
  | link target =>
    exact iff_of_false (by simp [Node.pathsBelow]) (not_foundBelow fun _ => by simp)
  | @directory entries hnames hnodup _ ih =>
    have hinner : ∀ name n, (name, n) ∈ entries →
        (path ∈ top.pathsBelow exclude (here ++ [name]) (pathOf (front ++ [name])) n ↔
          FoundBelow top exclude (here ++ [name]) (front ++ [name]) n path) :=
      fun name n hmem => ih _ hmem (isName_concat hfront (hnames _ hmem))
    rw [Node.pathsBelow]
    split
    · next hlong =>
      exact iff_of_false List.not_mem_nil (not_foundBelow_of_long fun hfits => hfits hlong)
    next hhere =>
    rw [mem_inOrder, foundBelow_directory hnodup hhere]
    simp only [mem_visitsOf, relative_pathOf hfront]
    constructor
    · rintro (⟨name, ⟨n, hmem, hex, hfile⟩, rfl⟩ | ⟨name, below, ⟨n, hmem, hex, hin⟩, hpath⟩)
      · exact ⟨name, n, hmem, hex, Or.inl ⟨rfl, visitOf_eq_file.1 hfile.symm⟩⟩
      · obtain ⟨inner, rfl, rfl⟩ := visitOf_eq_entered.1 hin.symm
        rw [relative_pathOf hfront] at hpath
        exact ⟨name, _, hmem, hex, Or.inr ((hinner name _ hmem).1 hpath)⟩
    · rintro ⟨name, n, hmem, hex, ⟨rfl, hlisted⟩ | hbelow⟩
      · exact Or.inl ⟨name, ⟨n, hmem, hex, (visitOf_eq_file.2 hlisted).symm⟩, rfl⟩
      · obtain ⟨inner, rfl⟩ : ∃ inner, n = .directory inner := by
          by_contra hno
          exact not_foundBelow (fun inner he => hno ⟨inner, he⟩) hbelow
        refine Or.inr ⟨name, _, ⟨_, hmem, hex, rfl⟩, ?_⟩
        rw [relative_pathOf hfront]
        exact (hinner name _ hmem).2 hbelow

/-- The path of an entry, or of something below it, has names that begin with the entry's. -/
theorem exists_names_of_mem_pathsBelow {name : String} (hn : WellNamed n)
    (hfront : ∀ name ∈ front, IsName name) (hname : IsName name)
    (hpath : path ∈ top.pathsBelow exclude here (pathOf (front ++ [name])) n) :
    ∃ next rest, path = pathOf (front ++ name :: next :: rest) ∧
      ∀ other ∈ front ++ name :: next :: rest, IsName other := by
  have hall := isName_concat hfront hname
  obtain ⟨names, hne, rfl, -, hlisted, -⟩ := (mem_pathsBelow hn hall).1 hpath
  obtain ⟨next, rest, rfl⟩ := List.exists_cons_of_ne_nil hne
  obtain ⟨m, hm⟩ : ∃ m, n.get? (next :: rest) = some m := by
    by_contra hno
    rw [Option.eq_none_iff_forall_ne_some.2 (not_exists.1 hno)] at hlisted
    exact hlisted
  refine ⟨next, rest, by simp, fun other ho => ?_⟩
  have hother : other ∈ front ++ [name] ∨ other ∈ next :: rest := by simpa [or_assoc] using ho
  exact hother.elim (hall other) ((hn.get? hm).2 other)

/-- A walk takes the files of a directory first, and all by name. -/
theorem pairwise_pathsBelow (hn : WellNamed n) (hfront : ∀ name ∈ front, IsName name) :
    (top.pathsBelow exclude here (pathOf front) n).Pairwise FilesFirst := by
  induction hn generalizing here front with
  | file content => simp [Node.pathsBelow]
  | link target => simp [Node.pathsBelow]
  | @directory entries hnames hnodup hwell ih =>
    have hfile : ∀ {name}, (name, .file) ∈ top.visitsOf exclude here (pathOf front) entries →
        IsName name := fun h =>
      have ⟨_, hmem, _⟩ := mem_visitsOf.1 h
      hnames _ hmem
    have hentered : ∀ {name below},
        (name, .entered below) ∈ top.visitsOf exclude here (pathOf front) entries →
        IsName name ∧ ∃ n, (name, n) ∈ entries ∧
          below = top.pathsBelow exclude (here ++ [name]) (pathOf (front ++ [name])) n := by
      intro name below h
      obtain ⟨n, hmem, -, hin⟩ := mem_visitsOf.1 h
      obtain ⟨inner, -, hbelow⟩ := visitOf_eq_entered.1 hin.symm
      exact ⟨hnames _ hmem, n, hmem, relative_pathOf hfront name ▸ hbelow⟩
    rw [Node.pathsBelow]
    split
    · exact .nil
    refine pairwise_inOrder ?nodup ?files ?filesFirst ?directories ?inside
    case nodup =>
      rw [map_fst_visitsOf]
      exact hnodup.filter _
    case files =>
      intro a b ha hb hab
      rw [relative_pathOf hfront, relative_pathOf hfront]
      exact filesFirst_pathOf (isName_concat hfront (hfile ha)) (isName_concat hfront (hfile hb))
        (.file hab)
    case filesFirst =>
      intro a b below path ha hb hpath
      obtain ⟨hname, n, hmem, rfl⟩ := hentered hb
      obtain ⟨next, rest, rfl, hall⟩ :=
        exists_names_of_mem_pathsBelow (hwell _ hmem) hfront hname hpath
      rw [relative_pathOf hfront]
      exact filesFirst_pathOf (isName_concat hfront (hfile ha)) hall .above
    case directories =>
      intro a b below below' path path' ha hb hab hpath hpath'
      obtain ⟨hname, n, hmem, rfl⟩ := hentered ha
      obtain ⟨hname', n', hmem', rfl⟩ := hentered hb
      obtain ⟨next, rest, rfl, hall⟩ :=
        exists_names_of_mem_pathsBelow (hwell _ hmem) hfront hname hpath
      obtain ⟨next', rest', rfl, hall'⟩ :=
        exists_names_of_mem_pathsBelow (hwell _ hmem') hfront hname' hpath'
      exact filesFirst_pathOf hall hall' (.directory hab)
    case inside =>
      intro a below ha
      obtain ⟨hname, n, hmem, rfl⟩ := hentered ha
      exact ih _ hmem (isName_concat hfront hname)

end

end Scaffold.Workspace
