import Scaffold.Plan.Path
import Scaffold.Proofs.Text.Split

/-!
# The one spelling of a path

A path in its one spelling is made of the segments that it was read from (`segmentsOf_normalized`),
so reading it again gives the path itself, unless a drive has come to stand in front
(`normalizeChars_normalized`). A person who types it gets it back just when it `ReadsBack`: it has
no white space at either end, which is trimmed from typed paths, and no drive in front
(`normalize_strip_eq_iff`).
-/

namespace Scaffold.Plan
open Scaffold.Text

/-- Typed, the path stands for itself: nothing is trimmed from it, and it is not absolute. -/
def ReadsBack (path : String) : Prop :=
  Text.strip path = path ∧ isAbsolute path.toList = false

instance (path : String) : Decidable (ReadsBack path) := by
  unfold ReadsBack
  infer_instance

section

variable {cs ds : List Char}

theorem normalizeChars_eq_ok_iff : normalizeChars cs = .ok ds ↔
    isAbsolute cs = false ∧ ['.', '.'] ∉ segmentsOf cs ∧ segmentsOf cs ≠ [] ∧
      ds = joinWith ['/'] (segmentsOf cs) := by
  unfold normalizeChars
  by_cases habs : isAbsolute cs = true
  · simp [habs]
  by_cases hup : ['.', '.'] ∈ segmentsOf cs
  · simp [habs, hup]
  by_cases hnil : segmentsOf cs = []
  · simp [habs, hnil]
  · simp only [habs, Bool.false_eq_true, if_false, List.contains_iff_mem, hup, List.isEmpty_iff,
      hnil, Except.ok.injEq, not_false_eq_true, ne_eq, true_and]
    exact eq_comm

/-- The segments of a path do not change when it is brought into its one spelling. -/
theorem segmentsOf_normalized (h : normalizeChars cs = .ok ds) : segmentsOf ds = segmentsOf cs := by
  obtain ⟨-, -, hne, rfl⟩ := normalizeChars_eq_ok_iff.1 h
  have hsplit : splitBy isSeparator (joinWith ['/'] (segmentsOf cs)) = segmentsOf cs := by
    refine splitBy_joinWith (by decide) hne fun segment hs c hc => ?_
    exact eq_false_of_mem_splitBy (List.mem_filter.1 hs).1 hc
  rw [segmentsOf, hsplit, segmentsOf, List.filter_filter]
  simp only [Bool.and_self]

/-- A path in its one spelling is read as it is, unless it is absolute. -/
theorem normalizeChars_normalized (h : normalizeChars cs = .ok ds) :
    normalizeChars ds = if isAbsolute ds then .error .absolute else .ok ds := by
  have hsegments := segmentsOf_normalized h
  obtain ⟨-, hup, hne, hds⟩ := normalizeChars_eq_ok_iff.1 h
  split
  · next habs => simp [normalizeChars, habs]
  · next habs =>
    refine normalizeChars_eq_ok_iff.2 ⟨by simpa using habs, ?_⟩
    rw [hsegments]
    exact ⟨hup, hne, hds⟩

theorem length_le_of_normalizeChars (h : normalizeChars cs = .ok ds) : ds.length ≤ cs.length := by
  obtain ⟨-, -, -, rfl⟩ := normalizeChars_eq_ok_iff.1 h
  exact length_joinWith_le_of_sublist '/' List.filter_sublist

/-- A path in its one spelling is read as itself behind trimming just when nothing is trimmed and it
is not absolute. -/
theorem normalizeChars_trim_eq_iff (h : normalizeChars cs = .ok ds) :
    normalizeChars (trim ds) = .ok ds ↔ trim ds = ds ∧ isAbsolute ds = false := by
  constructor
  · intro hback
    -- the text that is read is at least as long as the path that it gives
    have htrim : trim ds = ds :=
      (trim_sublist ds).eq_of_length_le (length_le_of_normalizeChars hback)
    rw [htrim] at hback
    exact ⟨htrim, (normalizeChars_eq_ok_iff.1 hback).1⟩
  · rintro ⟨htrim, habs⟩
    rw [htrim, normalizeChars_normalized h, habs]
    rfl

end

section

variable {raw path : String}

theorem normalize_eq_ok_iff : normalize raw = .ok path ↔
    normalizeChars raw.toList = .ok path.toList := by
  unfold normalize
  cases h : normalizeChars raw.toList with
  | error fault => simp
  | ok cs =>
    simp only [Except.ok.injEq]
    constructor
    · rintro rfl
      exact String.toList_ofList.symm
    · rintro rfl
      exact String.ofList_toList

/-- A path that was brought into its one spelling is read as itself when it is typed, just when it
reads back. -/
theorem normalize_strip_eq_iff (h : normalize raw = .ok path) :
    normalize (Text.strip path) = .ok path ↔ ReadsBack path := by
  rw [normalize_eq_ok_iff] at h
  rw [normalize_eq_ok_iff, toList_strip, normalizeChars_trim_eq_iff h, ReadsBack, ← toList_strip,
    String.toList_inj]

/-- The path above the last segment. -/
theorem parent_joinWith {segments : List (List Char)} {last : List Char} (hlast : '/' ∉ last) :
    parent (String.ofList (joinWith ['/'] (segments ++ [last]))) =
      String.ofList (joinWith ['/'] segments) := by
  rw [parent, String.toList_ofList]
  by_cases hnil : segments = []
  · subst hnil
    simp only [List.nil_append, joinWith, cutLast_of_not_mem hlast]
  · rw [joinWith_concat '/' hnil, cutLast_append hlast]

end

end Scaffold.Plan
