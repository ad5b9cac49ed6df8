import Mathlib.Tactic
import Scaffold.Generation.Run

/-!
# The lists of an outcome

Each fate belongs to one list of an outcome (`Fate.bucket`). The list has the targets with such a
fate, in order (`bucket_ofFates`), and all lists together have all targets (`perm_ofFates`).
-/

namespace Scaffold.Generation

/-- The lists in which a target can end. -/
inductive Bucket
  | created
  | overwritten
  | skipped
  | failed
deriving Repr, DecidableEq

/-- The list of a fate. -/
def Fate.bucket : Fate → Bucket
  | created _ => .created
  | overwritten _ => .overwritten
  | skipped => .skipped
  | failed _ => .failed

namespace Outcome

/-- The paths of a list. -/
def bucket (o : Outcome) : Bucket → List String
  | .created => o.created
  | .overwritten => o.overwritten
  | .skipped => o.skipped
  | .failed => o.failed.map FailedPath.path

/-- All paths, list by list. -/
def all (o : Outcome) : List String :=
  o.created ++ (o.overwritten ++ (o.skipped ++ o.failed.map FailedPath.path))

end Outcome

/-- A list has the targets whose fate belongs to it, in order. -/
theorem bucket_ofFates (b : Bucket) (fates : List (String × Fate)) :
    (Outcome.ofFates fates).bucket b =
      (fates.filter fun target => target.2.bucket = b).map Prod.fst := by
  induction fates with
  | nil => cases b <;> rfl
  | cons target fates ih =>
    obtain ⟨path, fate⟩ := target
    rw [List.filter_cons]
    cases b <;> cases fate <;>
      simp_all [Outcome.bucket, Outcome.ofFates, Outcome.pathsOf, Fate.bucket, List.filter_cons]

/-- Whatever is sorted into the lists, all of it is in them. -/
theorem perm_filter_bucket {α : Type} (f : α → Bucket) (l : List α) :
    List.Perm (l.filter (fun a => f a = .created) ++ (l.filter (fun a => f a = .overwritten) ++
      (l.filter (fun a => f a = .skipped) ++ l.filter (fun a => f a = .failed)))) l := by
  induction l with
  | nil => exact .nil
  | cons a l ih =>
    -- the element stands in front of its own list, behind the lists before that one
    have hmiddle : ∀ xs ys, List.Perm (xs ++ ys) l → List.Perm (xs ++ a :: ys) (a :: l) :=
      fun _ _ h => List.perm_middle.trans (h.cons a)
    cases ha : f a with
    | created => simpa [List.filter_cons, ha] using ih
    | overwritten => simpa [List.filter_cons, ha] using hmiddle _ _ ih
    | skipped =>
      rw [← List.append_assoc] at ih
      simpa [List.filter_cons, ha] using hmiddle _ _ ih
    | failed =>
      rw [← List.append_assoc, ← List.append_assoc] at ih
      simpa [List.filter_cons, ha] using hmiddle _ _ ih

/-- Each target ends in one list. -/
theorem perm_ofFates (fates : List (String × Fate)) :
    List.Perm (Outcome.ofFates fates).all (fates.map Prod.fst) := by
  have hbucket := fun b => bucket_ofFates b fates
  have hcreated := hbucket .created
  have hoverwritten := hbucket .overwritten
  have hskipped := hbucket .skipped
  have hfailed := hbucket .failed
  simp only [Outcome.bucket] at hcreated hoverwritten hskipped hfailed
  rw [Outcome.all, hcreated, hoverwritten, hskipped, hfailed, ← List.map_append,
    ← List.map_append, ← List.map_append]
  exact (perm_filter_bucket (fun target => target.2.bucket) fates).map _

theorem mem_all_iff {o : Outcome} {path : String} : path ∈ o.all ↔ ∃ b, path ∈ o.bucket b := by
  simp only [Outcome.all, List.mem_append]
  constructor
  · rintro (h | h | h | h)
    exacts [⟨.created, h⟩, ⟨.overwritten, h⟩, ⟨.skipped, h⟩, ⟨.failed, h⟩]
  · rintro ⟨b, h⟩
    cases b <;> simp [Outcome.bucket] at h <;> simp [h]

/-- No path is in two lists, when none comes twice. -/
theorem existsUnique_bucket {o : Outcome} (ho : o.all.Nodup) {path : String} (h : path ∈ o.all) :
    ∃! b, path ∈ o.bucket b := by
  obtain ⟨b, hb⟩ := mem_all_iff.1 h
  refine ⟨b, hb, fun b' hb' => ?_⟩
  simp only [Outcome.all, List.nodup_append, List.mem_append] at ho
  cases b <;> cases b' <;> simp only [Outcome.bucket] at hb hb' <;> grind

/-- Only a file that was written has content that stands in for a failed request. -/
theorem mem_written_of_mem_fallbacks {fates : List (String × Fate)} {path : String}
    (h : path ∈ (Outcome.ofFates fates).fallbacks) :
    path ∈ (Outcome.ofFates fates).created ∨ path ∈ (Outcome.ofFates fates).overwritten := by
  simp only [Outcome.ofFates, Outcome.pathsOf, List.mem_map, List.mem_filter] at h ⊢
  obtain ⟨⟨path, fate⟩, ⟨hmem, hused⟩, rfl⟩ := h
  cases fate with
  | created fallback => exact Or.inl ⟨_, ⟨hmem, rfl⟩, rfl⟩
  | overwritten fallback => exact Or.inr ⟨_, ⟨hmem, rfl⟩, rfl⟩
  | skipped => cases hused
  | failed reason => cases hused

end Scaffold.Generation
