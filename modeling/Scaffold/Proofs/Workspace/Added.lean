import Scaffold.Proofs.Sequence
import Scaffold.Proofs.Workspace.Calls
import Scaffold.Proofs.Workspace.Written

/-!
# What operations add

A tree that has nodes put where nothing was (`Adds`) keeps what stood, and each of its new nodes is
one of those that were put (`Adds.exists_leaf`). None of them is a link. So each path resolves as
before (`Adds.resolved_eq`), and leads where it led (`Adds.confine`).

Making directories and writing a file where none is are of this kind:

* `adds_ensureDirectories`, `adds_createDirectoryIn` - empty directories on the way to a location;
* `adds_writeFileIn` - the file itself;
* `isDirectoryAt_of_createDirectoryIn`, `existsIn_of_writeFileIn` - and it is there afterwards.
-/

namespace Scaffold.Workspace

/-! ### Leaves -/

/-- An empty directory or a file: nothing is below it, and it is no link. -/
inductive IsLeaf : Node → Prop
  | directory : IsLeaf .empty
  | file (content : ByteArray) : IsLeaf (.file content)

/-- The new tree is the old one with leaves put where nothing was, one after the other, each of them
allowed at its place. -/
inductive Adds (allowed : List String → Node → Prop) (old : Node) : Node → Prop
  | nothing : Adds allowed old old
  | put {mid leaf : Node} {place : List String} : Adds allowed old mid → mid.get? place = none →
      IsLeaf leaf → allowed place leaf → Adds allowed old (mid.put place leaf)

section

variable {leaf n : Node} {place rest : List String} {b : Bare}

theorem IsLeaf.eq_nil (h : IsLeaf leaf) (hb : leaf.bareAt? rest = some b) :
    rest = [] ∧ leaf.bare = b := by
  cases rest with
  | nil =>
    rw [Node.bareAt?_nil] at hb
    exact ⟨rfl, Option.some_inj.1 hb⟩
  | cons name rest => cases h <;> cases hb

theorem IsLeaf.ne_link (h : IsLeaf leaf) (target : String) : leaf ≠ .link target := by
  rintro rfl
  cases h

theorem IsLeaf.linkCount (h : IsLeaf leaf) : leaf.linkCount = 0 := by
  cases h <;> rfl

theorem linkCountIn_insert (name : String) (n : Node) (entries : List (String × Node)) :
    Node.linkCountIn (Node.insert name n entries) +
        ((Node.lookup name entries).map Node.linkCount).getD 0 =
      Node.linkCountIn entries + n.linkCount := by
  induction entries with
  | nil => simp [Node.insert, Node.lookup, Node.linkCountIn]
  | cons entry entries ih =>
    obtain ⟨k, m⟩ := entry
    by_cases hk : k = name
    · simp only [Node.insert, Node.lookup, Node.linkCountIn, hk, beq_self_eq_true, if_true,
        Option.map_some, Option.getD_some]
      omega
    · simp only [Node.insert, Node.lookup, Node.linkCountIn, beq_eq_false_iff_ne.2 hk,
        Bool.false_eq_true, if_false]
      omega

/-- What is put where nothing was has no links, so there are as many as before. -/
theorem linkCount_put (hnone : n.get? place = none) (hleaf : leaf.linkCount = 0) :
    (n.put place leaf).linkCount = n.linkCount := by
  induction place generalizing n with
  | nil =>
    rw [Node.get?_nil] at hnone
    cases hnone
  | cons name place ih =>
    rcases Node.put_cons_cases n leaf name place with hput | ⟨entries, old, rfl, hput, hold⟩ <;>
      rw [hput]
    have hcount := linkCountIn_insert name (old.put place leaf) entries
    rw [Node.get?_directory_cons] at hnone
    simp only [Node.linkCount]
    by_cases hnil : place = []
    · subst hnil
      have hlookup : Node.lookup name entries = none := by
        cases hl : Node.lookup name entries with
        | none => rfl
        | some m =>
          rw [hl, Option.bind_some, Node.get?_nil] at hnone
          cases hnone
      rw [hlookup, Node.put, hleaf] at hcount
      simpa [Node.put] using hcount
    · rw [hold hnil, Option.bind_some] at hnone
      rw [hold hnil, ih hnone] at hcount
      simp only [Option.map_some, Option.getD_some] at hcount
      omega

end

/-! ### Trees that were added to -/

section

variable {allowed allowed' : List String → Node → Prop} {old mid new : Node}
  {place names : List String} {l root : Location} {path : String}

theorem Adds.keeps (h : Adds allowed old new) : Keeps old new := by
  induction h with
  | nothing => exact .refl old
  | put _ hnone _ _ ih => exact ih.trans (keeps_put hnone _)

theorem Adds.trans (h : Adds allowed old mid) (h' : Adds allowed mid new) :
    Adds allowed old new := by
  induction h' with
  | nothing => exact h
  | put _ hnone hleaf hallowed ih => exact .put ih hnone hleaf hallowed

/-- Nodes are put where nothing was from the start. -/
theorem Adds.mono (h : Adds allowed old new)
    (hallowed : ∀ place leaf, old.bareAt? place = none → allowed place leaf →
      allowed' place leaf) : Adds allowed' old new := by
  induction h with
  | nothing => exact .nothing
  | @put mid leaf place h hnone hleaf hone ih =>
    have hold : old.bareAt? place = none := by
      rw [Option.eq_none_iff_forall_ne_some]
      intro b hb
      have hmid := h.keeps place b hb
      rw [Node.bareAt?, hnone] at hmid
      cases hmid
    exact .put ih hnone hleaf (hallowed place leaf hold hone)

/-- What is new was put there. -/
theorem Adds.exists_leaf (h : Adds allowed old new) (hold : old.bareAt? place = none) {b : Bare}
    (hnew : new.bareAt? place = some b) :
    ∃ leaf, IsLeaf leaf ∧ allowed place leaf ∧ leaf.bare = b := by
  induction h with
  | nothing =>
    rw [hold] at hnew
    cases hnew
  | @put mid leaf at_ h hnone hleaf hone ih =>
    by_cases hp : at_ <+: place
    · obtain ⟨rest, rfl⟩ := hp
      rcases Node.bareAt?_put_append mid leaf at_ rest with hput | hput <;> rw [hput] at hnew
      · obtain ⟨rfl, hbare⟩ := hleaf.eq_nil hnew
        rw [List.append_nil]
        exact ⟨leaf, hleaf, hone, hbare⟩
      · exact ih hnew
    · rw [Node.bareAt?_put_of_not_prefix hp] at hnew
      exact ih hnew

/-- No link is new. -/
theorem Adds.link (h : Adds allowed old new) {target : String}
    (hnew : new.bareAt? place = some (.link target)) : old.bareAt? place = some (.link target) := by
  cases hold : old.bareAt? place with
  | none =>
    obtain ⟨leaf, hleaf, -, hbare⟩ := h.exists_leaf hold hnew
    cases hleaf <;> cases hbare
  | some b => rw [← h.keeps place b hold, hnew]

theorem Adds.linkAt?_eq (h : Adds allowed old new) (place : List String) :
    new.linkAt? place = old.linkAt? place := by
  refine Option.ext fun target => ?_
  rw [linkAt?_eq_some_iff, linkAt?_eq_some_iff]
  exact and_congr_right fun _ => ⟨h.link, h.keeps place _⟩

theorem Adds.linkCount_eq (h : Adds allowed old new) : new.linkCount = old.linkCount := by
  induction h with
  | nothing => rfl
  | put _ hnone hleaf _ ih => rw [linkCount_put hnone hleaf.linkCount, ih]

theorem Adds.clear_iff (h : Adds allowed old new) : Clear new place ↔ Clear old place := by
  simp only [Clear, h.linkAt?_eq]

theorem Adds.direct (h : Adds allowed old new) (hl : Direct old l) : Direct new l where
  absolute := hl.absolute
  plain := hl.plain
  clear := h.clear_iff.2 hl.clear

/-! ### Paths lead where they led -/

/-- Names resolve by the links that are met, and by nothing else. -/
theorem resolveWith_congr (hlink : ∀ place, new.linkAt? place = old.linkAt? place)
    (expand : Node.Met → List String → String → Node.Resolved) (met : Node.Met)
    (here names : List String) :
    new.resolveWith expand met here names = old.resolveWith expand met here names := by
  induction names generalizing met here with
  | nil => rfl
  | cons name rest ih => simp only [Node.resolveWith, hlink, ih]

theorem expandLink_congr (hlink : ∀ place, new.linkAt? place = old.linkAt? place) (fuel : Nat) :
    new.expandLink fuel = old.expandLink fuel := by
  induction fuel with
  | zero => rfl
  | succ fuel ih =>
    funext met here target
    rw [Node.expandLink, Node.expandLink, ih]
    exact resolveWith_congr hlink _ _ _ _

theorem resolved_congr (hlink : ∀ place, new.linkAt? place = old.linkAt? place)
    (hcount : new.linkCount = old.linkCount) (names : List String) :
    new.resolved names = old.resolved names := by
  rw [Node.resolved, Node.resolved, hcount, expandLink_congr hlink]
  exact resolveWith_congr hlink _ _ _ _

theorem Adds.resolved_eq (h : Adds allowed old new) (names : List String) :
    new.resolved names = old.resolved names :=
  resolved_congr h.linkAt?_eq h.linkCount_eq names

theorem Adds.resolveNames_eq (h : Adds allowed old new) (names : List String) :
    new.resolveNames names = old.resolveNames names := by
  simp only [Node.resolveNames, h.resolved_eq]

theorem Adds.strays_iff (h : Adds allowed old new) : Strays new names ↔ Strays old names := by
  rw [Strays, Strays, h.resolved_eq, h.resolveNames_eq, h.clear_iff]

/-- A path leads where it led, unless links lead back to themselves there now. -/
theorem Adds.confine (h : Adds allowed old new) (hl : confine root old path = .ok l)
    (hloop : new.stat l ≠ .error .linkLoop) : confine root new path = .ok l := by
  rw [confine_eq_ok_iff] at hl ⊢
  rw [h.resolveNames_eq]
  exact hl.imp_right fun ⟨hne, hresolve, hnul, _, hwithin⟩ =>
    ⟨hne, hresolve, hnul, hloop, hwithin⟩

/-- What exists exists afterwards. -/
theorem Adds.existsIn (h : Adds allowed old new) (hex : existsIn root path old = .ok true) :
    existsIn root path new = .ok true := by
  obtain ⟨l, n, hl, hstat⟩ := existsIn_eq_true_iff.1 hex
  obtain ⟨n', -, hstat'⟩ := stat_keeps h.keeps hstat
  exact existsIn_eq_true_iff.2 ⟨l, n', h.confine hl (by simp [hstat']), hstat'⟩

end

/-! ### What is added -/

section

variable {top top' : Node} {root l : Location} {path : String} {content : ByteArray}

/-- Directories are made where the names of a location say, if it is direct. -/
theorem adds_ensureDirectories (top : Node) (l : Location) :
    Adds (fun place leaf => leaf = .empty ∧ (Direct top l → place <+: l.names)) top
      (top.ensureDirectories l).1 := by
  -- what was made before leaves the location direct
  refine ensureDirectoriesUpTo_induction
    (R := fun a b => Adds _ top a → Adds _ top b)
    (fun _ h => h) (fun _ _ _ hab hbc h => hbc (hab h)) (fun l' a b hs hp hmake h => ?_) _ rfl
    (List.prefix_refl _) top .nothing
  obtain ⟨found, hfound, hnone, rfl⟩ := exists_put_of_makeDirectory hmake
  refine .put h hnone .directory ⟨rfl, fun hl => ?_⟩
  rw [place_of_locate ((h.direct hl).onWay hs hp) hfound]
  exact hp

theorem adds_createDirectoryIn (root : Location) (path : String) (top : Node) :
    Adds (fun place leaf => leaf = .empty ∧
        ∃ l, confine root top path = .ok l ∧ (Direct top l → place <+: l.names)) top
      (createDirectoryIn root path top).2 := by
  cases hl : confine root top path with
  | error f =>
    rw [createDirectoryIn, hl]
    exact .nothing
  | ok l =>
    have hmade : (createDirectoryIn root path top).2 = (top.ensureDirectories l).1 := by
      simp only [createDirectoryIn, hl]
      rcases top.ensureDirectories l with ⟨made, _ | ⟨cause, at_⟩⟩ <;> rfl
    rw [hmade]
    exact (adds_ensureDirectories top l).mono fun _ _ _ h => ⟨h.1, l, rfl, h.2⟩

/-- A file that does not exist is written where its location says, if that is direct. -/
theorem adds_writeFileIn (h : existsIn root path top = .ok false) (content : ByteArray) :
    Adds (fun place leaf => leaf = .file content ∧
        ∃ l, confine root top path = .ok l ∧ (Direct top l → place = l.names)) top
      (writeFileIn root path content top).2 := by
  obtain ⟨l, hl, hstat⟩ := stat_of_existsIn h
  simp only [writeFileIn, hl]
  split
  · next top' hwrite =>
    obtain ⟨found, hfound, rfl⟩ := exists_put_of_write hwrite
    exact .put .nothing (get?_of_stat hstat hfound) (.file content)
      ⟨rfl, l, rfl, fun hd => place_of_locate hd hfound⟩
  · exact .nothing

/-! ### What was made is there -/

/-- A walk to nothing ends there, too, when the last name is followed through a link. -/
theorem walk_of_missing {budget : Nat} {here names place : List String}
    (h : top.walk false budget here names = .ok ⟨place, none⟩) :
    top.walk true budget here names = .ok ⟨place, none⟩ := by
  fun_induction Node.walk top false budget here names with
  | case1 => rw [Node.walk, h]
  | case2 budget here name rest hdot ih =>
    rw [Node.walk, if_pos hdot]
    exact ih h
  | case3 budget here name rest hdot hup ih =>
    rw [Node.walk, if_neg hdot, if_pos hup]
    exact ih h
  | case5 budget here name rest hdot hup hlong hnode hrest =>
    rw [Node.walk, if_neg hdot, if_neg hup, if_neg hlong, hnode]
    exact (if_pos hrest).trans h
  | case9 budget here name rest hdot hup hlong entries hnode ih =>
    rw [walk_directory hdot hup hlong hnode]
    exact ih h
  | case12 here name rest hdot hup hlong target hnode hlast budget ih =>
    rw [walk_link hdot hup hlong hnode (by simp)]
    exact ih h
  | case4 | case6 | case7 | case8 | case10 | case11 => cases h

theorem isDirectoryAt_of_makeDirectory (hroot : top.bareAt? [] = some .directory)
    (h : top.makeDirectory l = .ok top') : top'.isDirectoryAt l = true := by
  obtain ⟨found, hfound, hnone, rfl⟩ := exists_put_of_makeDirectory h
  obtain ⟨place, node⟩ := found
  obtain rfl : node = none := (node_of_locate hfound).trans hnone
  have hfree : Writable top place := by
    simp [Writable, Node.bareAt?, hnone]
  unfold Node.locate at hfound
  split at hfound
  · cases hfound
  · next hsize =>
    have hwalk := walk_put hroot rfl hroot (walk_of_missing hfound) hfree
      IsLeaf.directory.ne_link
    rw [Node.isDirectoryAt, Node.stat, Node.locate, if_neg hsize, hwalk]
    rfl

theorem isDirectoryAt_of_ensureDirectory (hroot : top.bareAt? [] = some .directory)
    (h : top.ensureDirectory l = (top', none)) : top'.isDirectoryAt l = true := by
  unfold Node.ensureDirectory at h
  split at h
  · next made hmake =>
    cases h
    exact isDirectoryAt_of_makeDirectory hroot hmake
  · split at h
    · next hthere =>
      cases h
      exact hthere
    · cases h

theorem isDirectoryAt_of_ensureDirectories (hroot : top.bareAt? [] = some .directory)
    (h : top.ensureDirectories l = (top', none)) : top'.isDirectoryAt l = true := by
  rw [Node.ensureDirectories, Node.ensureDirectoriesUpTo] at h
  split at h
  · split at h
    · cases h
    · -- the directories above were made first
      have hkeeps := keeps_ensureDirectoriesUpTo l.names.length top l.parent
      split at h
      · next mid hmid =>
        rw [hmid] at hkeeps
        exact isDirectoryAt_of_ensureDirectory (hkeeps [] _ hroot) h
      · cases h
  · exact isDirectoryAt_of_ensureDirectory hroot h

/-- A directory of a workspace that was made is there. -/
theorem isDirectoryAt_of_createDirectoryIn (hroot : top.bareAt? [] = some .directory)
    (h : createDirectoryIn root path top = (.ok (), top')) :
    ∃ l, confine root top' path = .ok l ∧ top'.isDirectoryAt l = true := by
  have hadds := adds_createDirectoryIn root path top
  rw [h] at hadds
  unfold createDirectoryIn at h
  split at h
  · cases h
  · next l hl =>
    split at h
    · next made hmade =>
      cases h
      have hthere := isDirectoryAt_of_ensureDirectories hroot hmade
      refine ⟨l, hadds.confine hl fun hloop => ?_, hthere⟩
      rw [Node.isDirectoryAt, hloop] at hthere
      cases hthere
    · cases h

/-- A file of a workspace that was written where none was exists. -/
theorem existsIn_of_writeFileIn (hroot : top.bareAt? [] = some .directory)
    (hnone : existsIn root path top = .ok false)
    (h : writeFileIn root path content top = (.ok (), top')) :
    existsIn root path top' = .ok true := by
  have hadds := adds_writeFileIn hnone content
  rw [h] at hadds
  unfold writeFileIn at h
  split at h
  · cases h
  · next l hl =>
    split at h
    · next made hmade =>
      cases h
      obtain ⟨n, hstat⟩ : ∃ n, top'.stat l = .ok n := by
        have hread := (read_of_write hroot hmade).1
        exact (bind_eq_ok hread).imp fun _ h => h.1
      refine existsIn_eq_true_iff.2 ⟨l, n, hadds.confine hl ?_, hstat⟩
      simp [hstat]
    · cases h

end

end Scaffold.Workspace
