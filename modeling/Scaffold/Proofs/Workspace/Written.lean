import Scaffold.Proofs.Workspace.Walk
import Scaffold.Workspace.Text

/-!
# Written texts read back

A file is written where the walk of its location ends. The walk meets directories and links on its
way, and none of these is touched, so that in the new tree it ends at the same place (`walk_put`).
What was written is read there: `read_of_write` says so of bytes, `readText_of_writeText` of texts.
-/

namespace Scaffold.Workspace

/-! ### Places -/

section

variable {top : Node} {place : List String}

/-- Something stands below a directory only. -/
theorem bareAt?_of_append {rest : List String} {b : Bare} (hrest : rest ≠ [])
    (h : top.bareAt? (place ++ rest) = some b) : top.bareAt? place = some .directory := by
  obtain ⟨name, rest, rfl⟩ := List.exists_cons_of_ne_nil hrest
  rw [Node.bareAt?, Node.get?_append] at h
  rw [Node.bareAt?]
  cases hplace : top.get? place with
  | none =>
    rw [hplace] at h
    cases h
  | some n =>
    rw [hplace] at h
    cases n with
    | file content => cases h
    | link target => cases h
    | directory entries => rfl

theorem bareAt?_dropLast (h : top.bareAt? place = some .directory) :
    top.bareAt? place.dropLast = some .directory := by
  rcases List.eq_nil_or_concat place with rfl | ⟨front, name, rfl⟩
  · exact h
  · rw [List.concat_eq_append, List.dropLast_concat]
    rw [List.concat_eq_append] at h
    exact bareAt?_of_append (List.cons_ne_nil name []) h

/-- What is put into a directory is there. -/
theorem get?_put_self (h : top.bareAt? place = some .directory) (name : String) (new : Node) :
    (top.put (place ++ [name]) new).get? (place ++ [name]) = some new := by
  induction place generalizing top with
  | nil =>
    cases top with
    | file content => cases h
    | link target => cases h
    | directory entries =>
      rw [List.nil_append, Node.put, Node.get?_directory_cons, Node.lookup_insert, if_pos rfl,
        Option.bind_some, Node.get?_nil]
  | cons next place ih =>
    cases top with
    | file content => cases h
    | link target => cases h
    | directory entries =>
      rw [Node.bareAt?_directory_cons] at h
      cases hnext : Node.lookup next entries with
      | none =>
        rw [hnext] at h
        cases h
      | some n =>
        rw [hnext] at h
        have hput : (Node.directory entries).put (next :: (place ++ [name])) new =
            .directory (Node.insert next (n.put (place ++ [name]) new) entries) := by
          cases hp : place ++ [name] with
          | nil => simp at hp
          | cons _ _ => simp [Node.put, hnext]
        rw [List.cons_append, hput, Node.get?_directory_cons, Node.lookup_insert, if_pos rfl,
          Option.bind_some, ih h]

end

/-! ### Walks -/

/-- A place where a file can be written: nothing is there, or a file. -/
def Writable (top : Node) (place : List String) : Prop :=
  top.bareAt? place ≠ some .directory ∧ ∀ target, top.bareAt? place ≠ some (.link target)

section

variable {top : Node}

/-- Directories and links stay when something is put where a file can be written. -/
theorem bareAt?_put_writable {place other : List String} {b : Bare} (h : Writable top place)
    (hother : top.bareAt? other = some b) (hb : ∀ c, b ≠ .file c) (new : Node) :
    (top.put place new).bareAt? other = some b := by
  rw [Node.bareAt?_put_of_not_prefix, hother]
  rintro ⟨rest, rfl⟩
  by_cases hrest : rest = []
  · subst hrest
    rw [List.append_nil] at hother
    cases b with
    | file c => exact hb c rfl
    | link target => exact h.2 target hother
    | directory => exact h.1 hother
  · exact h.1 (bareAt?_of_append hrest hother)

theorem bareAt?_eq_link_iff {place : List String} {target : String} :
    top.bareAt? place = some (.link target) ↔ top.get? place = some (.link target) := by
  rw [Node.bareAt?]
  rcases top.get? place with _ | (c | t | e) <;> simp [Node.bare]

theorem bareAt?_eq_directory_iff {place : List String} :
    top.bareAt? place = some .directory ↔
      ∃ entries, top.get? place = some (.directory entries) := by
  rw [Node.bareAt?]
  rcases top.get? place with _ | (c | t | e) <;> simp [Node.bare]

variable {found : Node.Found} {followLast : Bool} {budget : Nat} {here names : List String}
  (hroot : top.bareAt? [] = some .directory) (hlast : followLast = true)
  (hhere : top.bareAt? here = some .directory)
  (h : top.walk followLast budget here names = .ok found)

include hroot hlast hhere h

/-- A walk that follows all links ends at none. -/
theorem ne_link_of_walk (target : String) : found.node ≠ some (.link target) := by
  fun_induction Node.walk top followLast budget here names with
  | case1 =>
    cases h
    rw [ne_eq, ← bareAt?_eq_link_iff, hhere]
    simp
  | case2 _ _ _ _ _ ih => exact ih hhere h
  | case3 _ _ _ _ _ _ ih => exact ih (bareAt?_dropLast hhere) h
  | case4 => cases h
  | case5 => cases h; simp
  | case6 => cases h
  | case7 => cases h; simp
  | case8 => cases h
  | case9 _ _ _ _ _ _ _ _ hnode ih => exact ih (bareAt?_eq_directory_iff.2 ⟨_, hnode⟩) h
  | case10 _ _ _ _ _ _ _ _ _ hrest => simp [hlast] at hrest
  | case11 => cases h
  | case12 _ _ _ _ _ _ _ _ _ _ ih =>
    refine ih ?_ h
    split
    · exact hroot
    · exact hhere

/-- A walk to a place where a file can be written ends at what is put there. -/
theorem walk_put (hfound : Writable top found.place) {new : Node}
    (hnew : ∀ target, new ≠ .link target) :
    (top.put found.place new).walk followLast budget here names =
      .ok ⟨found.place, some new⟩ := by
  fun_induction Node.walk top followLast budget here names with
  | case1 =>
    cases h
    exact absurd hhere hfound.1
  | case2 budget here name rest hdot ih =>
    rw [Node.walk, if_pos hdot]
    exact ih hhere h
  | case3 budget here name rest hdot hup ih =>
    rw [Node.walk, if_neg hdot, if_pos hup]
    exact ih (bareAt?_dropLast hhere) h
  | case4 => cases h
  | case5 budget here name rest hdot hup hlong hnode hrest =>
    cases h
    rw [List.isEmpty_iff.1 hrest]
    exact walk_last hdot hup hlong (get?_put_self hhere name new) hnew
  | case6 => cases h
  | case7 budget here name rest hdot hup hlong c hnode hrest =>
    cases h
    rw [List.isEmpty_iff.1 hrest]
    exact walk_last hdot hup hlong (get?_put_self hhere name new) hnew
  | case8 => cases h
  | case9 budget here name rest hdot hup hlong entries hnode ih =>
    -- the directory is still one, though something in it may be new
    have hdir := bareAt?_eq_directory_iff.2 ⟨_, hnode⟩
    obtain ⟨entries', hnow⟩ :=
      bareAt?_eq_directory_iff.1 (bareAt?_put_writable hfound hdir (by simp) new)
    rw [walk_directory hdot hup hlong hnow]
    exact ih hdir h
  | case10 budget here name rest hdot hup hlong target hnode hrest => simp [hlast] at hrest
  | case11 => cases h
  | case12 here name rest hdot hup hlong target hnode hrest budget ih =>
    have hlink := bareAt?_eq_link_iff.2 hnode
    have hnow := bareAt?_eq_link_iff.1 (bareAt?_put_writable hfound hlink (by simp) new)
    rw [walk_link hdot hup hlong hnow hrest]
    refine ih ?_ h
    split
    · exact hroot
    · exact hhere

end

/-! ### Files -/

section

variable {top top' : Node} {l : Location} {content : ByteArray}

/-- A file that is written is read back, in a tree whose top is still a directory. -/
theorem read_of_write (hroot : top.bareAt? [] = some .directory)
    (h : top.write l content = .ok top') :
    top'.read l = .ok content ∧ top'.bareAt? [] = some .directory := by
  obtain ⟨found, hfound, rfl⟩ := exists_put_of_write h
  have hnode := node_of_locate hfound
  have hwalk := hfound
  unfold Node.locate at hwalk
  split at hwalk
  · cases hwalk
  · next hsize =>
    have hfree : Writable top found.place := by
      constructor
      · intro hdir
        obtain ⟨entries, hget⟩ := bareAt?_eq_directory_iff.1 hdir
        simp only [Node.write, hfound, hnode, hget, bind, Except.bind] at h
        cases h
      · intro target hlink
        rw [bareAt?_eq_link_iff, ← hnode] at hlink
        exact ne_link_of_walk hroot rfl hroot hwalk target hlink
    have hplace : (top.put found.place (.file content)).locate true l =
        .ok ⟨found.place, some (.file content)⟩ := by
      rw [Node.locate, if_neg hsize]
      exact walk_put hroot rfl hroot hwalk hfree (by simp)
    refine ⟨?_, bareAt?_put_writable hfree hroot (by simp) _⟩
    simp only [Node.read, Node.stat, hplace, bind, Except.bind, pure, Except.pure]

theorem unifyLineEnds_of_not_mem {cs : List Char} (h : '\r' ∉ cs) : unifyLineEnds cs = cs := by
  induction cs with
  | nil => rfl
  | cons c cs ih =>
    rw [List.mem_cons, not_or] at h
    rw [unifyLineEnds, ih h.2]
    · rintro _ rfl _
      exact h.1 rfl
    · rintro rfl
      exact h.1 rfl

theorem fromUTF8?_toUTF8 (text : String) : String.fromUTF8? text.toUTF8 = some text := by
  have hvalid : text.toUTF8.IsValidUTF8 := text.isValidUTF8
  rw [String.fromUTF8?, dif_pos hvalid]
  rfl

/-- Texts are stored as what they are read from, carriage returns apart. -/
theorem textOf?_toUTF8 {text : String} (h : '\r' ∉ text.toList) :
    textOf? text.toUTF8 = some text := by
  rw [textOf?, fromUTF8?_toUTF8, Option.map_some, unifyLineEnds_of_not_mem h, String.ofList_toList]

/-- A text without carriage returns that is written is read back. -/
theorem readText_of_writeText {cwd : Here} {text : String}
    (hroot : top.bareAt? [] = some .directory) (hnul : Node.hasNul l.names = false)
    (htext : '\r' ∉ text.toList) (h : writeText cwd l text top = (.ok (), top')) :
    readText cwd l top' = .ok text ∧ top'.bareAt? [] = some .directory := by
  unfold writeText at h
  have hmade := keeps_ensureDirectories top (cwd.join l.parent) [] _ hroot
  split at h
  · cases h
  · next mid hmid =>
    rw [hmid] at hmade
    cases hwrite : mid.write (cwd.join l) text.toUTF8 with
    | error cause =>
      rw [hwrite] at h
      cases h
    | ok written =>
      rw [hwrite] at h
      cases h
      obtain ⟨hread, hdir⟩ := read_of_write hmade hwrite
      simp only [readText, hnul, Bool.false_eq_true, if_false, hread, textOf?_toUTF8 htext, hdir,
        and_self]

end

end Scaffold.Workspace
