import Scaffold.Proofs.Glob
import Scaffold.Proofs.Workspace.Listing
import Scaffold.Workspace.FileSystem

/-!
# What a file system lists

The walk from a root, `walked`, has the paths of the files that are `OnWalk`, in order. With that,

* leaving out excluded directories saves work only, when the patterns reach below what they stand
  for (`walked_pruned`);
* the order in which a directory holds its entries does not matter (`walked_of_rearranged`);
* a listing is the front of the walk, and a summary is made of it (`listFiles_local`).

What lies so deep that the path to its directory is too long is not on the walk: `deepTree` holds a
file that no listing shows.
-/

namespace Scaffold.Workspace

/-! ### The walk from a root -/

/-- The paths of the files below a root, seen from there. -/
def walked (top : Node) (root exclude : List String) : List String :=
  match top.get? root with
  | none => []
  | some n => top.pathsBelow exclude root "" n

/-- The path is that of a file below a root that is not excluded and lies in no excluded directory,
nor in one whose own path is too long. A link is a file unless it leads to a directory, and then
nothing lies below it. -/
def OnWalk (top : Node) (root exclude : List String) (path : String) : Prop :=
  ∃ names, names ≠ [] ∧ path = pathOf names ∧ Fits (root ++ names.dropLast) ∧
    IsListed top (root ++ names) (top.get? (root ++ names)) ∧
    ∀ part, part ≠ [] → part <+: names → Glob.excludes exclude (pathOf part) = false

section

variable {top top' : Node} {root exclude : List String} {path : String}

theorem list_eq (top : Node) (root : List String) (pattern : String) (exclude : List String)
    (limit : Int) : top.list root pattern exclude limit =
      ((walked top root exclude).filter (Glob.matchesPath pattern)).take (max 1 limit.toNat) := by
  unfold Node.list walked
  cases top.get? root <;> simp

theorem mem_walked (htop : WellNamed top) :
    path ∈ walked top root exclude ↔ OnWalk top root exclude path := by
  simp only [walked, OnWalk, Node.get?_append]
  cases hroot : top.get? root with
  | none => exact iff_of_false List.not_mem_nil fun ⟨_, _, _, _, hlisted, _⟩ => hlisted
  | some n => exact mem_pathsBelow (htop.get? hroot).1 (List.forall_mem_nil _)

theorem pairwise_walked (htop : WellNamed top) :
    (walked top root exclude).Pairwise FilesFirst := by
  unfold walked
  cases hroot : top.get? root with
  | none => exact .nil
  | some n => exact pairwise_pathsBelow (htop.get? hroot).1 (List.forall_mem_nil _)

/-! ### Excluded directories -/

/-- If what lies below an excluded path is excluded, a file is on the walk when it is on the whole
walk and not excluded. -/
theorem onWalk_iff_of_below (hbelow : ∀ directory, Glob.excludes exclude directory = true →
      ∀ rest, Glob.excludes exclude (directory ++ "/" ++ rest) = true) :
    OnWalk top root exclude path ↔
      OnWalk top root [] path ∧ Glob.excludes exclude path = false := by
  constructor
  · rintro ⟨names, hne, rfl, hfits, hlisted, hparts⟩
    exact ⟨⟨names, hne, rfl, hfits, hlisted, fun _ _ _ => rfl⟩,
      hparts names hne (List.prefix_refl names)⟩
  · rintro ⟨⟨names, hne, rfl, hfits, hlisted, -⟩, hex⟩
    refine ⟨names, hne, rfl, hfits, hlisted, fun part hpart hprefix => ?_⟩
    obtain ⟨rest, rfl⟩ := hprefix
    by_cases hrest : rest = []
    · rwa [hrest, List.append_nil] at hex
    · rw [pathOf_append hpart hrest] at hex
      rw [← Bool.not_eq_true] at hex ⊢
      exact fun h => hex (hbelow _ h _)

/-- Leaving out excluded directories is leaving out the excluded files of the whole walk, if each
pattern ends in `/**`: what lies below an excluded directory is excluded itself. -/
theorem walked_pruned (htop : WellNamed top) (root : List String)
    (hpatterns : ∀ pattern ∈ exclude, ∃ front, pattern = front ++ "/**") :
    walked top root exclude =
        (walked top root []).filter (fun path => !Glob.excludes exclude path) ∧
      ∀ directory, Glob.excludes exclude directory = true →
        ∀ rest, Glob.excludes exclude (directory ++ "/" ++ rest) = true := by
  have hbelow : ∀ directory, Glob.excludes exclude directory = true →
      ∀ rest, Glob.excludes exclude (directory ++ "/" ++ rest) = true := fun _ =>
    Glob.excludes_below hpatterns
  refine ⟨eq_of_filesFirst (pairwise_walked htop) ((pairwise_walked htop).filter _) fun path => ?_,
    hbelow⟩
  rw [mem_walked htop, List.mem_filter, mem_walked htop, onWalk_iff_of_below hbelow,
    Bool.not_eq_true']

/-- A tree with links to a directory and to nothing. -/
def linkedTree : Node :=
  .directory [("src", .directory [("b.py", .file .empty), ("a.py", .file .empty)]),
    ("lib", .link "src"), ("gone", .link "nowhere"), ("[x", .file .empty)]

theorem wellNamed_linkedTree : WellNamed linkedTree := by
  refine .directory (by decide) (by decide) ?_
  simp only [List.forall_mem_cons, List.not_mem_nil, false_implies, implies_true, and_true]
  refine ⟨.directory (by decide) (by decide) ?_, .link _, .link _, .file _⟩
  simp only [List.forall_mem_cons, List.not_mem_nil, false_implies, implies_true, and_true]
  exact ⟨.file _, .file _⟩

theorem walked_linkedTree :
    walked linkedTree [] ["**/src/**", "[x/**"] =
        (walked linkedTree [] []).filter
          (fun path => !Glob.excludes ["**/src/**", "[x/**"] path) ∧
      Glob.excludes ["**/src/**", "[x/**"] ("src" ++ "/" ++ "a.py") = true := by
  have hpatterns : ∀ pattern ∈ ["**/src/**", "[x/**"], ∃ front, pattern = front ++ "/**" := by
    simp only [List.forall_mem_cons, List.not_mem_nil, false_implies, implies_true, and_true]
    exact ⟨⟨"**/src", by decide⟩, "[x", by decide⟩
  have h := walked_pruned wellNamed_linkedTree [] hpatterns
  exact ⟨h.1, h.2 "src" (by decide +kernel) "a.py"⟩

/-! ### The order of entries -/

/-- The same tree, with the entries of its directories in any order. -/
structure Rearranged (top top' : Node) : Prop where
  wellNamed : WellNamed top'
  bareAt? : ∀ place, top'.bareAt? place = top.bareAt? place

theorem Rearranged.keeps (h : Rearranged top top') : Keeps top top' ∧ Keeps top' top :=
  ⟨fun place _ hb => (h.bareAt? place).trans hb, fun place _ hb => (h.bareAt? place).symm.trans hb⟩

theorem isListed_of_rearranged (h : Rearranged top top') {place : List String} :
    IsListed top' place (top'.get? place) ↔ IsListed top place (top.get? place) := by
  have hleads : ∀ l, top'.isDirectoryAt l = top.isDirectoryAt l :=
    fun _ => Bool.eq_iff_iff.2 ⟨isDirectoryAt_keeps h.keeps.2, isDirectoryAt_keeps h.keeps.1⟩
  have hbare := h.bareAt? place
  rw [Node.bareAt?, Node.bareAt?] at hbare
  rcases hn : top.get? place with _ | _ | _ | _ <;>
    rcases hn' : top'.get? place with _ | _ | _ | _ <;>
    simp_all [IsListed, Node.bare]

/-- The order in which directories hold their entries does not show. -/
theorem walked_of_rearranged (htop : WellNamed top) (h : Rearranged top top') :
    walked top' root exclude = walked top root exclude := by
  refine eq_of_filesFirst (pairwise_walked h.wellNamed) (pairwise_walked htop) fun path => ?_
  rw [mem_walked h.wellNamed, mem_walked htop]
  simp only [OnWalk, isListed_of_rearranged h]

end

/-! ### Summaries -/

/-- A summary shows files in order, their directories in order and once each, and how many there
are of both. -/
structure Summarizes (files : List String) (summary : Summary) : Prop where
  perm : summary.files.Perm files
  sorted : summary.files.Pairwise (· ≤ ·)
  mem_directories : ∀ directory, directory ∈ summary.directories ↔
    ∃ path ∈ files, ∃ name : String, '/' ∉ name.toList ∧ path = directory ++ "/" ++ name
  directories_sorted : summary.directories.Pairwise (· < ·)
  total : summary.total = summary.directories.length + summary.files.length

theorem directoryOf?_eq_some_iff {path directory : String} : directoryOf? path = some directory ↔
    ∃ name : String, '/' ∉ name.toList ∧ path = directory ++ "/" ++ name := by
  unfold directoryOf?
  constructor
  · intro h
    rcases Text.cutLast_cases '/' path.toList with ⟨-, hcut⟩ | ⟨front, last, hpath, hlast, hcut⟩ <;>
      rw [hcut] at h <;> cases h
    exact ⟨String.ofList last, by simpa using hlast, by simp [← String.toList_inj, hpath]⟩
  · rintro ⟨name, hname, rfl⟩
    have htext : (directory ++ "/" ++ name).toList = directory.toList ++ '/' :: name.toList := by
      simp
    rw [htext, Text.cutLast_append hname, Option.map_some, String.ofList_toList]

theorem summarizes_ofFiles (files : List String) : Summarizes files (.ofFiles files) where
  perm := List.mergeSort_perm _ _
  sorted := pairwise_mergeSort_on id files
  mem_directories directory := by
    simp only [Summary.ofFiles, List.mem_eraseDups, sortTexts, List.mem_mergeSort,
      List.mem_filterMap, directoryOf?_eq_some_iff]
  directories_sorted := pairwise_lt_mergeSort_on id (by simpa using nodup_eraseDups _)
  total := rfl

/-- The pattern of a summary stands for every path. -/
theorem matchesPath_all (path : String) : Glob.matchesPath "**/*" path = true := by
  refine (Glob.matchesPath_iff _ _).2 (Or.inr ⟨['*'], rfl, ?_⟩)
  exact Glob.stands_star path.toList

/-- A listing is the front of the walk, of those paths that match the pattern, in whatever order the
directories hold their entries; and a workspace's summary is made of the front of the walk. -/
theorem listFiles_local {ρ : Type} [Log.Journal ρ] (w : World Node ρ) (hfiles : WellNamed w.files)
    (root : Location) (pattern : String) (exclude : List String) {limit : Int}
    (hlimit : 1 ≤ limit) :
    ∃ paths : List String, paths.Pairwise FilesFirst ∧ paths.Nodup ∧
      (∀ path, path ∈ paths ↔ OnWalk w.files root.names exclude path) ∧
      (∀ top, Rearranged w.files top →
        (FileSystem.local root).listFiles pattern exclude limit top =
          (.ok ((paths.filter (Glob.matchesPath pattern)).take limit.toNat), top)) ∧
      ∃ summary, summarize (.local root) limit exclude w = (.ok summary, w) ∧
        Summarizes (paths.take limit.toNat) summary ∧ (summary.files.length : Int) ≤ limit := by
  have hmax : max 1 limit.toNat = limit.toNat := by omega
  refine ⟨walked w.files root.names exclude, pairwise_walked hfiles,
    nodup_of_filesFirst (pairwise_walked hfiles), fun path => mem_walked hfiles, fun top h => ?_,
    .ofFiles ((walked w.files root.names exclude).take limit.toNat), ?_, summarizes_ofFiles _, ?_⟩
  · simp only [FileSystem.local, list_eq, hmax, walked_of_rearranged hfiles h]
  · have hlist : w.files.list root.names "**/*" exclude limit =
        (walked w.files root.names exclude).take limit.toNat := by
      rw [list_eq, hmax, List.filter_eq_self.2 fun path _ => matchesPath_all path]
    simp only [summarize, bind, StateT.bind, World.onFiles, FileSystem.local, hlist]
    rfl
  · have hlength := (summarizes_ofFiles ((walked w.files root.names exclude).take limit.toNat)).perm
    rw [hlength.length_eq, List.length_take]
    omega

/-- Nothing is recorded. -/
instance : Log.Journal Unit where
  threshold _ := 0
  add _ s := s

theorem listFiles_linkedTree : ∃ paths : List String,
    paths.Pairwise FilesFirst ∧ (∀ path, path ∈ paths ↔ OnWalk linkedTree [] ["lib/**"] path) ∧
      (FileSystem.local ⟨1, []⟩).listFiles "**/*.py" ["lib/**"] 2 linkedTree =
        (.ok ((paths.filter (Glob.matchesPath "**/*.py")).take 2), linkedTree) ∧
      ∃ summary, summarize (.local ⟨1, []⟩) 2 ["lib/**"] (⟨linkedTree, ()⟩ : World Node Unit) =
        (.ok summary, ⟨linkedTree, ()⟩) ∧ Summarizes (paths.take 2) summary := by
  have hlimit : (1 : Int) ≤ 2 := by decide
  obtain ⟨paths, hpaths, -, hmem, hlist, summary, hsummary, hshows, -⟩ :=
    listFiles_local (⟨linkedTree, ()⟩ : World Node Unit) wellNamed_linkedTree ⟨1, []⟩ "**/*.py"
      ["lib/**"] hlimit
  exact ⟨paths, hpaths, hmem, hlist linkedTree ⟨wellNamed_linkedTree, fun _ => rfl⟩, summary,
    hsummary, hshows⟩

/-! ### A file that is not listed -/

/-- A name that an entry can have, of 250 bytes. -/
def longName : String := String.ofList (List.replicate 250 'd')

theorem isName_replicate {n : Nat} (hn : n ≠ 0) : IsName (String.ofList (List.replicate n 'd')) :=
  ⟨by simp [← String.toList_inj, hn], by simp⟩

theorem utf8ByteSize_replicate (n : Nat) (c : Char) :
    (String.ofList (List.replicate n c)).utf8ByteSize = n * c.utf8Size := by
  induction n with
  | zero => simp
  | succ n ih =>
    have hsplit : String.ofList (List.replicate (n + 1) c) =
        String.singleton c ++ String.ofList (List.replicate n c) := by
      simp [List.replicate_succ]
    rw [hsplit, String.utf8ByteSize_append, ih, String.utf8ByteSize_singleton, Nat.succ_mul,
      Nat.add_comm]

theorem isName_longName : IsName longName := isName_replicate (by decide)

theorem utf8ByteSize_longName : longName.utf8ByteSize = 250 := utf8ByteSize_replicate 250 'd'

/-- A file below so many directories, one in the other. -/
def deepTree : Nat → Node
  | 0 => .directory [("f", .file .empty)]
  | depth + 1 => .directory [(longName, deepTree depth)]

/-- The names of the directories, and that of the file. -/
def deepNames (depth : Nat) : List String := List.replicate depth longName ++ ["f"]

theorem wellNamed_deepTree (depth : Nat) : WellNamed (deepTree depth) := by
  induction depth with
  | zero =>
    refine .directory (by decide) (by simp) fun entry hentry => ?_
    rw [List.mem_singleton.1 hentry]
    exact .file _
  | succ depth ih =>
    refine .directory (fun entry hentry => ?_) (by simp) fun entry hentry => ?_ <;>
      rw [List.mem_singleton.1 hentry]
    · exact isName_longName
    · exact ih

theorem get?_deepTree (depth : Nat) :
    (deepTree depth).get? (deepNames depth) = some (.file .empty) := by
  induction depth with
  | zero => rfl
  | succ depth ih =>
    have hnames : deepNames (depth + 1) = longName :: deepNames depth := rfl
    rw [hnames, deepTree, Node.get?_directory_cons]
    simpa [Node.lookup] using ih

/-- There is one file in the tree. -/
theorem eq_of_isListed_deepTree {depth : Nat} {top : Node} {place names : List String}
    (h : IsListed top place ((deepTree depth).get? names)) : names = deepNames depth := by
  induction depth generalizing names with
  | zero =>
    cases names with
    | nil => exact h.elim
    | cons name rest =>
      rw [deepTree, Node.get?_directory_cons] at h
      by_cases hname : name = "f"
      · subst hname
        cases rest with
        | nil => rfl
        | cons next rest => exact h.elim
      · simp [Node.lookup, Ne.symm hname, IsListed] at h
  | succ depth ih =>
    cases names with
    | nil => exact h.elim
    | cons name rest =>
      rw [deepTree, Node.get?_directory_cons] at h
      by_cases hname : name = longName
      · subst hname
        simp only [Node.lookup, beq_self_eq_true, if_true, Option.bind_some] at h
        rw [ih h]
        rfl
      · simp [Node.lookup, Ne.symm hname, IsListed] at h

/-- Each of the directories makes the path longer. -/
theorem le_utf8ByteSize_replicate (depth : Nat) :
    250 * depth ≤ ("/".intercalate (List.replicate depth longName)).utf8ByteSize := by
  induction depth with
  | zero => exact Nat.zero_le _
  | succ depth ih =>
    cases depth with
    | zero => simp [utf8ByteSize_longName]
    | succ depth =>
      rw [List.replicate_succ, List.replicate_succ, String.intercalate_cons_cons,
        ← List.replicate_succ]
      simp only [String.utf8ByteSize_append, utf8ByteSize_longName]
      omega

/-- A file that matches, in a directory that nothing excludes, is not listed. -/
theorem deepTree_not_listed :
    WellNamed (deepTree 17) ∧ (deepTree 17).get? (deepNames 17) = some (.file .empty) ∧
      Glob.matchesPath "**/*" (pathOf (deepNames 17)) = true ∧
      (∀ part, Glob.excludes [] part = false) ∧
      (FileSystem.local (.top [])).listFiles "**/*" [] 100 (deepTree 17) =
        (.ok [], deepTree 17) := by
  have hlong : ¬ Fits (List.replicate 17 longName) := by
    have hsize := le_utf8ByteSize_replicate 17
    intro hfits
    rw [Fits, text_top, String.utf8ByteSize_append, Node.pathLimit] at hfits
    omega
  have hnone : walked (deepTree 17) [] [] = [] := by
    refine List.eq_nil_iff_forall_not_mem.2 fun path hpath => ?_
    obtain ⟨names, -, -, hfits, hlisted, -⟩ := (mem_walked (wellNamed_deepTree 17)).1 hpath
    rw [List.nil_append] at hfits hlisted
    rw [eq_of_isListed_deepTree hlisted, deepNames, List.dropLast_concat] at hfits
    exact hlong hfits
  refine ⟨wellNamed_deepTree 17, get?_deepTree 17, matchesPath_all _, fun _ => rfl, ?_⟩
  simp only [FileSystem.local, Location.top, list_eq, hnone, List.filter_nil, List.take_nil]

end Scaffold.Workspace
