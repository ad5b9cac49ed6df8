import Scaffold.Proofs.Workspace.Added

/-!
# Trees that differ in their files' contents

The outline of a tree has its directories, links and names, and files without content. It decides
where a path leads and what is there (`stat_outline`, `resolve_of_outline`); only reading a file
tells two trees of one outline apart.
-/

namespace Scaffold.Workspace

namespace Node

mutual

/-- A tree with the contents of its files taken out. -/
def outline : Node → Node
  | file _ => file ByteArray.empty
  | link target => link target
  | directory entries => directory (outlineIn entries)

/-- Entries with the contents of files taken out. -/
def outlineIn : List (String × Node) → List (String × Node)
  | [] => []
  | (name, n) :: entries => (name, n.outline) :: outlineIn entries

end

/-- The outline of what a walk ends at. -/
def Found.outline (found : Found) : Found := ⟨found.place, found.node.map Node.outline⟩

@[simp] theorem isDirectory_outline (n : Node) : n.outline.isDirectory = n.isDirectory := by
  cases n <;> rfl

theorem lookup_outlineIn (name : String) (entries : List (String × Node)) :
    lookup name (outlineIn entries) = (lookup name entries).map outline := by
  induction entries with
  | nil => rfl
  | cons entry entries ih =>
    obtain ⟨k, n⟩ := entry
    by_cases hk : k = name
    · simp [outlineIn, lookup, hk]
    · simp [outlineIn, lookup, hk, ih]

@[simp] theorem get?_outline (n : Node) (place : List String) :
    n.outline.get? place = (n.get? place).map outline := by
  induction place generalizing n with
  | nil => simp
  | cons name place ih =>
    cases n with
    | file content => rfl
    | link target => rfl
    | directory entries =>
      rw [outline, get?_directory_cons, get?_directory_cons, lookup_outlineIn]
      cases lookup name entries with
      | none => rfl
      | some n => exact ih n

mutual

theorem linkCount_outline (n : Node) : n.outline.linkCount = n.linkCount := by
  cases n with
  | file content => rfl
  | link target => rfl
  | directory entries => exact linkCountIn_outlineIn entries

theorem linkCountIn_outlineIn (entries : List (String × Node)) :
    linkCountIn (outlineIn entries) = linkCountIn entries := by
  cases entries with
  | nil => rfl
  | cons entry entries =>
    rw [outlineIn, linkCountIn, linkCountIn, linkCount_outline entry.2,
      linkCountIn_outlineIn entries]

end

theorem linkAt?_outline (top : Node) (place : List String) :
    top.outline.linkAt? place = top.linkAt? place := by
  unfold linkAt?
  split
  · rfl
  · rw [get?_outline]
    rcases top.get? place with _ | (content | target | entries) <;> rfl

/-- A walk goes where names and links lead. -/
theorem walk_outline (top : Node) (followLast : Bool) (budget : Nat) (here names : List String) :
    top.outline.walk followLast budget here names =
      (top.walk followLast budget here names).map Found.outline := by
  fun_induction Node.walk top followLast budget here names with
  | case1 budget here =>
    rw [walk, get?_outline]
    rfl
  | case2 budget here name rest hdot ih =>
    rw [walk, if_pos hdot]
    exact ih
  | case3 budget here name rest hdot hup ih =>
    rw [walk, if_neg hdot, if_pos hup]
    exact ih
  | case4 budget here name rest hdot hup hlong =>
    rw [walk, if_neg hdot, if_neg hup, if_pos hlong]
    rfl
  | case5 budget here name rest hdot hup hlong hnode hrest
  | case7 budget here name rest hdot hup hlong content hnode hrest
  | case10 budget here name rest hdot hup hlong target hnode hrest =>
    rw [walk, if_neg hdot, if_neg hup, if_neg hlong, get?_outline, hnode]
    exact if_pos hrest
  | case6 budget here name rest hdot hup hlong hnode hrest
  | case8 budget here name rest hdot hup hlong content hnode hrest
  | case11 here name rest hdot hup hlong target hnode hrest =>
    rw [walk, if_neg hdot, if_neg hup, if_neg hlong, get?_outline, hnode]
    exact if_neg hrest
  | case9 budget here name rest hdot hup hlong entries hnode ih =>
    rw [walk, if_neg hdot, if_neg hup, if_neg hlong, get?_outline, hnode]
    exact ih
  | case12 here name rest hdot hup hlong target hnode hrest budget ih =>
    rw [walk, if_neg hdot, if_neg hup, if_neg hlong, get?_outline, hnode]
    exact (if_neg hrest).trans ih

theorem stat_outline (top : Node) (l : Location) :
    top.outline.stat l = (top.stat l).map outline := by
  have hlocate : top.outline.locate true l = (top.locate true l).map Found.outline := by
    unfold locate
    split
    · rfl
    · exact walk_outline top true linkBudget [] l.names
  rw [stat, stat, hlocate]
  rcases top.locate true l with cause | ⟨place, _ | n⟩ <;> rfl

/-! ### Trees of one outline -/

section

variable {top top' : Node} (h : top'.outline = top.outline)

include h

theorem resolveNames_of_outline (names : List String) :
    top'.resolveNames names = top.resolveNames names := by
  have hlink : ∀ place, top'.linkAt? place = top.linkAt? place := by
    intro place
    rw [← linkAt?_outline top', h, linkAt?_outline]
  have hcount : top'.linkCount = top.linkCount := by
    rw [← linkCount_outline top', h, linkCount_outline]
  rw [resolveNames, resolveNames, resolved_congr hlink hcount]

theorem stat_of_outline (l : Location) : (top'.stat l).map outline = (top.stat l).map outline := by
  rw [← stat_outline, h, stat_outline]

/-- A path leads to the same location. -/
theorem resolve_of_outline (names : List String) : top'.resolve names = top.resolve names := by
  have hstat := stat_of_outline h (top.resolveNames names)
  rw [resolve, resolve, resolveNames_of_outline h]
  split
  · rfl
  · rcases hold : top.stat (top.resolveNames names) with cause | n <;>
      rcases hnew : top'.stat (top.resolveNames names) with cause' | n' <;>
      rw [hold, hnew] at hstat
    · cases hstat
      simp only [hold, hnew]
    · cases hstat
    · cases hstat
    · simp only [hold, hnew]

end

end Node

end Scaffold.Workspace
