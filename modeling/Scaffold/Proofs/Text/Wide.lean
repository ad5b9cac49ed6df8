import Scaffold.Proofs.Text.Blank
import Scaffold.Text.Wide

/-!
# Texts with halves of pairs and strings

A string has no halves of pairs, and a text without any is a string (`halves?_ofString`,
`ofString_shown`). White space shows as it is, so that trimming may come before or after showing
(`shown_strip`).
-/

namespace Scaffold.Text.Wide

variable {t : Wide}

@[simp] theorem shown_ofString (s : String) : (ofString s).shown = s := by
  have hshown : CodePoint.shown ∘ CodePoint.char = id := rfl
  rw [shown, ofString, List.map_map, hshown, List.map_id, String.ofList_toList]

theorem toList_shown (t : Wide) : t.shown.toList = t.map CodePoint.shown := by
  rw [shown, String.toList_ofList]

theorem halvesFrom_eq_none_iff {place : Nat} :
    halvesFrom place t = none ↔ ∀ c ∈ t, c.isHalf = false := by
  induction t generalizing place with
  | nil => simp [halvesFrom]
  | cons c t ih =>
    cases c with
    | char c => simp [halvesFrom, ih, CodePoint.isHalf]
    | half n => simp [halvesFrom, CodePoint.isHalf]

theorem halves?_eq_none_iff : t.halves? = none ↔ ∀ c ∈ t, c.isHalf = false :=
  halvesFrom_eq_none_iff

@[simp] theorem halves?_ofString (s : String) : (ofString s).halves? = none := by
  rw [halves?_eq_none_iff]
  intro c hc
  obtain ⟨c, -, rfl⟩ := List.mem_map.1 hc
  rfl

/-- A text without halves is a string. -/
theorem ofString_shown (h : t.halves? = none) : ofString t.shown = t := by
  rw [halves?_eq_none_iff] at h
  have hsame : ∀ c ∈ t, (CodePoint.char ∘ CodePoint.shown) c = c := by
    intro c hc
    cases c with
    | char c => rfl
    | half n => cases h _ hc
  rw [ofString, toList_shown, List.map_map, List.map_congr_left hsame, List.map_id']

theorem encode_of_none (h : t.halves? = none) : t.encode = .ok t.shown.toUTF8 := by
  rw [encode, h]

theorem encode_of_some {halves : Halves} (h : t.halves? = some halves) :
    t.encode = .error halves := by
  rw [encode, h]

@[simp] theorem encode_ofString (s : String) : (ofString s).encode = .ok s.toUTF8 := by
  rw [encode_of_none (halves?_ofString s), shown_ofString]

/-! ### White space -/

/-- Half a pair is no white space, and neither is what shows it. -/
theorem isBlank_shown (c : CodePoint) : Text.isBlank c.shown = c.isBlank := by
  cases c <;> rfl

theorem shown_strip (t : Wide) : t.strip.shown = Text.strip t.shown := by
  have hblank : Text.isBlank ∘ CodePoint.shown = CodePoint.isBlank := funext isBlank_shown
  have hdrop (t : Wide) : (t.dropWhile CodePoint.isBlank).map CodePoint.shown =
      (t.map CodePoint.shown).dropWhile Text.isBlank := by
    rw [List.dropWhile_map, hblank]
  rw [Text.strip, toList_shown, trim, trimLeft, trimRight, shown, strip, List.map_reverse, hdrop,
    List.map_reverse, hdrop]

theorem strip_sublist (t : Wide) : t.strip.Sublist t :=
  (List.rdropWhile_prefix CodePoint.isBlank (l := t.dropWhile CodePoint.isBlank)).sublist.trans
    (List.dropWhile_suffix CodePoint.isBlank).sublist

/-- Stripping leaves nothing to strip, as it shows. -/
theorem strip_strip (t : Wide) : t.strip.strip = t.strip := by
  have hshown : t.strip.strip.shown = t.strip.shown := by
    rw [shown_strip, shown_strip, Text.strip_strip]
  have hlength : t.strip.strip.length = t.strip.length := by
    have hcount := congrArg (fun s => s.toList.length) hshown
    simpa only [toList_shown, List.length_map] using hcount
  exact (strip_sublist t.strip).eq_of_length hlength

end Scaffold.Text.Wide
