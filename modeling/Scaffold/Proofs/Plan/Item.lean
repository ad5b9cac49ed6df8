import Scaffold.Proofs.Plan.Listing
import Scaffold.Proofs.Plan.Path

/-!
# Paths of a plan, typed again

Typed paths are trimmed and brought into their one spelling, and the first occurrence of each is
kept (`dedupe_eq`), as it is for the paths of a plan. A plan whose paths are typed again is the same
plan just when each of them reads back (`dedupe_eq_self_iff_readsBack`). A drive that a dropped
`./` brings to the front does not, nor does white space at either end (`plan_not_typed_again`).
-/

namespace Scaffold.Plan

/-! ### Typed paths -/

/-- A typed path, trimmed and in its one spelling. -/
def typed (raw : String) : Except Failure String := normalize (Text.strip raw)

theorem dedupe_eq (ps : List String) : dedupe ps = (ps.mapM typed).map List.eraseDups := by
  refine (foldlM_firsts typed ps []).trans ?_
  simp

theorem nodup_of_dedupe {ps qs : List String} (h : dedupe ps = .ok qs) : qs.Nodup := by
  rw [dedupe_eq] at h
  cases hall : ps.mapM typed with
  | error f =>
    rw [hall] at h
    cases h
  | ok found =>
    rw [hall] at h
    cases h
    exact nodup_eraseDups found

/-- The first typed path that is none fails them all. -/
theorem dedupe_eq_error_iff {ps : List String} {f : Failure} :
    dedupe ps = .error f ↔ ∃ front path back, ps = front ++ path :: back ∧
      (∀ p ∈ front, ∃ q, typed p = .ok q) ∧ typed path = .error f := by
  rw [dedupe_eq, ← mapM_eq_error_iff]
  cases ps.mapM typed <;> simp [Except.map]

section

variable {ps qs : List String} (h : dedupe ps = .ok qs)

include h

theorem typed_of_dedupe : ∀ raw ∈ ps, ∃ path, typed raw = .ok path := by
  rw [dedupe_eq] at h
  cases hall : ps.mapM typed with
  | error f =>
    rw [hall] at h
    cases h
  | ok found => exact ok_of_mapM hall

/-- The typed paths are those that the texts are read as. -/
theorem mem_dedupe {path : String} : path ∈ qs ↔ ∃ raw ∈ ps, typed raw = .ok path := by
  rw [dedupe_eq] at h
  cases hall : ps.mapM typed with
  | error f =>
    rw [hall] at h
    cases h
  | ok found =>
    rw [hall] at h
    cases h
    rw [List.mem_eraseDups, mem_of_mapM hall]

end

/-- Typed paths stay as they are when each is in its one spelling and none comes twice. -/
theorem dedupe_eq_self_iff {ps : List String} (hps : ps.Nodup) :
    dedupe ps = .ok ps ↔ ∀ path ∈ ps, typed path = .ok path := by
  have hall : (∀ path ∈ ps, typed path = .ok path) ↔ ps.mapM typed = .ok ps := by
    rw [mapM_eq_ok_iff, List.forall₂_same]
  rw [hall, dedupe_eq]
  cases h : ps.mapM typed with
  | error f => simp [Except.map]
  | ok found =>
    have hlength : found.length = ps.length := (mapM_eq_ok_iff.1 h).length_eq.symm
    simp only [Except.map, Except.ok.injEq]
    constructor
    · intro he
      -- nothing was dropped, so the paths that were found are the typed ones
      rw [← he, eraseDups_eq_self_of_length (by rw [he, hlength])]
    · rintro rfl
      exact eraseDups_eq_self_iff.2 hps

/-! ### Plans, typed again -/

/-- Some paths of a plan stay as they are, when they are typed, just when each reads back. -/
theorem dedupe_eq_self_iff_readsBack {v : Json} {ps : List String}
    (h : ps.Sublist (paths (build v))) : dedupe ps = .ok ps ↔ ∀ path ∈ ps, ReadsBack path := by
  rw [dedupe_eq_self_iff (h.nodup (nodup_paths_build v))]
  refine forall₂_congr fun path hpath => ?_
  obtain ⟨raw, hraw⟩ := exists_raw_of_mem_build (h.subset hpath)
  exact normalize_strip_eq_iff hraw

/-- A plan with a drive in front is refused when it is typed, and one with a blank is changed. -/
theorem plan_not_typed_again :
    (paths (build (.array [.text "./C:/x.txt", .text "ok.txt"])) = ["C:/x.txt", "ok.txt"] ∧
      dedupe ["C:/x.txt", "ok.txt"] =
        .error (.invalidPath "C:/x.txt" "Absolute paths not allowed")) ∧
    paths (build (.array [.text "a.txt "])) = ["a.txt "] ∧ dedupe ["a.txt "] = .ok ["a.txt"] :=
  ⟨⟨rfl, rfl⟩, rfl, rfl⟩

/-! ### Parts of a plan -/

theorem restrict_both (items : List Item) : restrict [.directory, .file] items = items := by
  refine List.filter_eq_self.2 fun item _ => ?_
  cases item.kind <;> rfl

theorem paths_restrict_sublist (kinds : List Kind) (items : List Item) :
    (paths (restrict kinds items)).Sublist (paths items) :=
  List.filter_sublist.map _

theorem selectMatching_sublist (patterns : List String) (items : List Item) :
    (selectMatching patterns items).Sublist (paths items) := by
  unfold selectMatching
  split
  · exact .refl _
  · exact List.filter_sublist

end Scaffold.Plan
