import Scaffold.Proofs.Sequence
import Scaffold.Workspace.FileSystem

/-!
# What the file system of a workspace does not report

The operations of a workspace's file system resolve a path before anything else. Resolving fails in
two ways that are not failures of the file system: on a path that holds the character U+0000, and
on one whose links lead back to themselves (`Unresolvable`). All else that goes wrong is reported
with the path it is about: `Ending` has what an operation can end in, and
`createDirectoryIn_ending`, `existsIn_ending` and `writeFileIn_ending` say so of the three.
-/

namespace Scaffold.Workspace

/-- The names of a path of a workspace, from the top. -/
def namesIn (root : Location) (path : String) : List String :=
  (root.join (Location.parse path)).names

/-- The path cannot be resolved, and how that fails. -/
def Unresolvable (root : Location) (top : Node) (path : String) (f : Failure) : Prop :=
  path ≠ "" ∧
    (Node.hasNul (namesIn root path) = true ∧ f = Node.nulFailure ∨
      Node.hasNul (namesIn root path) = false ∧
        top.stat (top.resolveNames (namesIn root path)) = .error .linkLoop ∧
        f = .runtime
          s!"Symlink loop from {Text.quoted (top.resolveNames (namesIn root path)).text}")

section

variable {root : Location} {top : Node} {path : String} {f f' : Failure}

theorem Unresolvable.unique (h : Unresolvable root top path f)
    (h' : Unresolvable root top path f') : f = f' := by
  obtain ⟨-, ⟨hn, rfl⟩ | ⟨hn, -, rfl⟩⟩ := h <;> obtain ⟨-, ⟨hn', rfl⟩ | ⟨hn', -, rfl⟩⟩ := h'
  · rfl
  · rw [hn] at hn'
    cases hn'
  · rw [hn] at hn'
    cases hn'
  · rfl

/-- Where a path leads, or why that is not known. -/
theorem resolve_cases (top : Node) (names : List String) :
    top.resolve names = .ok (top.resolveNames names) ∧ Node.hasNul names = false ∧
        top.stat (top.resolveNames names) ≠ .error .linkLoop ∨
      top.resolve names = .error Node.nulFailure ∧ Node.hasNul names = true ∨
      top.resolve names = .error (.runtime
          s!"Symlink loop from {Text.quoted (top.resolveNames names).text}") ∧
        Node.hasNul names = false ∧ top.stat (top.resolveNames names) = .error .linkLoop := by
  unfold Node.resolve
  by_cases hnul : Node.hasNul names = true
  · exact Or.inr (Or.inl ⟨if_pos hnul, hnul⟩)
  · rw [if_neg hnul]
    have hfalse : Node.hasNul names = false := by simpa using hnul
    by_cases hloop : top.stat (top.resolveNames names) = .error .linkLoop
    · exact Or.inr (Or.inr ⟨by simp only [hloop], hfalse, hloop⟩)
    · refine Or.inl ⟨?_, hfalse, hloop⟩
      dsimp only
      split
      · next h => exact absurd h hloop
      · rfl

theorem resolve_eq_ok_iff {names : List String} {l : Location} : top.resolve names = .ok l ↔
    l = top.resolveNames names ∧ Node.hasNul names = false ∧ top.stat l ≠ .error .linkLoop := by
  rcases resolve_cases top names with ⟨h, hnul, hloop⟩ | ⟨h, hnul⟩ | ⟨h, hnul, hloop⟩ <;> rw [h]
  · rw [Except.ok.injEq]
    exact ⟨fun he => he ▸ ⟨rfl, hnul, hloop⟩, fun he => he.1.symm⟩
  · simp [hnul]
  · refine iff_of_false (by simp) ?_
    rintro ⟨rfl, -, hno⟩
    exact hno hloop

/-- Where a path leads: the empty one to the root, and every other one to the location that it
resolves to, which is inside the root. -/
theorem confine_eq_ok_iff {l : Location} : confine root top path = .ok l ↔
    path = "" ∧ l = root ∨
      path ≠ "" ∧ l = top.resolveNames (namesIn root path) ∧
        Node.hasNul (namesIn root path) = false ∧ top.stat l ≠ .error .linkLoop ∧
        l.isWithin root = true := by
  by_cases hempty : path = ""
  · subst hempty
    have hroot : confine root top "" = .ok root := rfl
    rw [hroot, Except.ok.injEq]
    exact ⟨fun h => Or.inl ⟨rfl, h.symm⟩, fun h => (h.resolve_right fun h => h.1 rfl).2.symm⟩
  · have hconfine : confine root top path = top.resolve (namesIn root path) >>= fun target =>
        if target.isWithin root = true then .ok target
        else .error (.fileSystem path "path escapes the workspace root") := by
      rw [confine, if_neg (by simpa using hempty)]
      rfl
    simp only [hconfine, hempty, false_and, false_or, ne_eq, not_false_eq_true, true_and]
    constructor
    · intro h
      obtain ⟨target, hresolve, hwithin⟩ := bind_eq_ok h
      obtain ⟨rfl, hnul, hloop⟩ := resolve_eq_ok_iff.1 hresolve
      split at hwithin
      · next hin =>
        cases hwithin
        exact ⟨rfl, hnul, hloop, hin⟩
      · cases hwithin
    · rintro ⟨hl, hnul, hloop, hin⟩
      rw [resolve_eq_ok_iff.2 ⟨hl, hnul, hloop⟩]
      exact if_pos hin

/-- What an operation that resolves a path first ends in: the path cannot be resolved, or the
operation is refused with the path and a reason, or it is done. -/
inductive Ending (root : Location) (top : Node) (path : String) {α : Type} :
    Except Failure α → Prop
  | unresolved (f : Failure) (h : Unresolvable root top path f) :
    Ending root top path (.error f)
  | refused (reason : String) (h : ∀ f, ¬ Unresolvable root top path f) :
    Ending root top path (.error (.fileSystem path reason))
  | done (a : α) (h : ∀ f, ¬ Unresolvable root top path f) : Ending root top path (.ok a)

theorem confine_ending (root : Location) (top : Node) (path : String) :
    Ending root top path (confine root top path) := by
  unfold confine
  by_cases hempty : path = ""
  · rw [if_pos (by simp [hempty])]
    exact .done _ fun f hf => hf.1 hempty
  · rw [if_neg (by simpa using hempty)]
    rcases resolve_cases top (namesIn root path) with
      ⟨h, hnul, hloop⟩ | ⟨h, hnul⟩ | ⟨h, hnul, hloop⟩
    · have hno : ∀ f, ¬ Unresolvable root top path f := by
        rintro f ⟨-, ⟨hn, -⟩ | ⟨-, hl, -⟩⟩
        · rw [hnul] at hn
          cases hn
        · exact hloop hl
      rw [namesIn] at h
      simp only [h, bind, Except.bind]
      split
      · exact .done _ hno
      · exact .refused _ hno
    · rw [namesIn] at h
      simp only [h, bind, Except.bind]
      exact .unresolved _ ⟨hempty, Or.inl ⟨hnul, rfl⟩⟩
    · rw [namesIn] at h
      simp only [h, bind, Except.bind]
      exact .unresolved _ ⟨hempty, Or.inr ⟨hnul, hloop, rfl⟩⟩

/-- An operation that fails with the failure to resolve, and else answers or is refused. -/
theorem ending_of_confine {α : Type} {r : Except Failure α}
    (herror : ∀ f, confine root top path = .error f → r = .error f)
    (hok : ∀ target, confine root top path = .ok target →
      (∃ a, r = .ok a) ∨ ∃ reason, r = .error (.fileSystem path reason)) :
    Ending root top path r := by
  have hc := confine_ending root top path
  cases hr : confine root top path with
  | error f =>
    rw [herror f hr]
    rw [hr] at hc
    cases hc with
    | unresolved _ h => exact .unresolved _ h
    | refused reason h => exact .refused _ h
  | ok target =>
    rw [hr] at hc
    cases hc with
    | done _ h =>
      rcases hok target hr with ⟨a, rfl⟩ | ⟨reason, rfl⟩
      · exact .done _ h
      · exact .refused _ h

theorem createDirectoryIn_ending (root : Location) (path : String) (top : Node) :
    Ending root top path (createDirectoryIn root path top).1 := by
  refine ending_of_confine (fun f h => ?_) fun target h => ?_
  · rw [createDirectoryIn, h]
  · simp only [createDirectoryIn, h]
    split
    · exact Or.inl ⟨_, rfl⟩
    · exact Or.inr ⟨_, rfl⟩

theorem existsIn_ending (root : Location) (path : String) (top : Node) :
    Ending root top path (existsIn root path top) := by
  refine ending_of_confine (fun f h => ?_) fun target h => ?_
  · rw [existsIn, h]
    rfl
  · simp only [existsIn, h, bind, Except.bind]
    split
    · exact Or.inl ⟨_, rfl⟩
    · exact Or.inl ⟨_, rfl⟩
    · exact Or.inr ⟨_, rfl⟩

theorem writeFileIn_ending (root : Location) (path : String) (content : ByteArray) (top : Node) :
    Ending root top path (writeFileIn root path content top).1 := by
  refine ending_of_confine (fun f h => ?_) fun target h => ?_
  · rw [writeFileIn, h]
  · simp only [writeFileIn, h]
    split
    · exact Or.inl ⟨_, rfl⟩
    · exact Or.inr ⟨_, rfl⟩

end

end Scaffold.Workspace
