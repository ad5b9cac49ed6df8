import Scaffold.Proofs.Text.Split
import Scaffold.Reply.Extract

/-!
# Fenced blocks

The first fence of a text that starts without a backtick is the one behind that start, and the block
ends where the next fence stands (`fencedChars?_append`). What follows the opening fence on its line
is dropped from the front of the block, and nothing else (`afterOpening_suffix`,
`afterOpening_append_cons`).
-/

namespace Scaffold.Reply
open Scaffold.Text

section

variable {cs xs : List Char}

/-! ### Fences -/

/-- A text without backticks, and two backticks behind it, are no fence. -/
theorem fenceless_append (h : '\x60' ∉ xs) : ¬ fence <:+: xs ++ fence.dropLast := by
  intro hfence
  have hcount := hfence.sublist.count_le '\x60'
  rw [List.count_append, List.count_eq_zero_of_not_mem h] at hcount
  exact absurd hcount (by decide)

theorem fenceless_of_not_mem (h : '\x60' ∉ xs) : ¬ fence <:+: xs :=
  fun hfence => h (hfence.subset List.mem_cons_self)

/-- A character that is no backtick parts a text for fences. -/
theorem fence_infix_append_cons_iff {c : Char} (hc : c ≠ '\x60') {ys : List Char} :
    fence <:+: xs ++ c :: ys ↔ fence <:+: xs ∨ fence <:+: ys :=
  infix_append_cons_iff (by simpa [fence] using hc)

theorem fencedChars?_eq_none (h : ¬ fence <:+: cs) : fencedChars? cs = none := by
  have hcut : cutAt fence cs = none := (cutAt_eq_none_iff (List.cons_ne_nil _ _)).2 h
  rw [fencedChars?, fencedSpan?, hcut]
  rfl

/-! ### The line of an opening fence -/

theorem afterOpening_suffix (cs : List Char) : afterOpening cs <:+ cs := by
  have hblanks : (cs.dropWhile isTagChar).dropWhile isLineBlank <:+ cs :=
    (List.dropWhile_suffix _).trans (List.dropWhile_suffix _)
  unfold afterOpening
  split
  · next rest he => exact (List.suffix_cons '\n' rest).trans (he ▸ hblanks)
  · exact hblanks

/-- The line is not looked at behind a character that cannot stand on it. -/
theorem afterOpening_append_cons {c : Char} (htag : isTagChar c = false)
    (hblank : isLineBlank c = false) (hline : c ≠ '\n') (xs ys : List Char) :
    afterOpening (xs ++ c :: ys) = afterOpening xs ++ c :: ys := by
  rw [afterOpening, dropWhile_append_cons htag, dropWhile_append_cons hblank, afterOpening]
  -- what is left of the line is empty, or it starts with the line end or with something else
  rcases (xs.dropWhile isTagChar).dropWhile isLineBlank with _ | ⟨d, rest⟩
  · simp [hline]
  · by_cases hd : d = '\n'
    · simp [hd]
    · simp [hd]

/-! ### Blocks -/

/-- The first block of a text: what is left of its first line, up to the next fence. -/
theorem fencedChars?_append {opened inside rest : List Char} (hxs : '\x60' ∉ xs)
    (hopened : afterOpening opened = inside ++ fence ++ rest)
    (hinside : ¬ fence <:+: inside ++ fence.dropLast) :
    fencedChars? (xs ++ fence ++ opened) = some (trimRight inside) := by
  -- the inside is found again where the text is cut to the span
  have hstart : inside ++ fence ++ rest <:+ xs ++ fence ++ opened := by
    rw [← hopened]
    exact (afterOpening_suffix opened).trans (List.suffix_append _ _)
  have hend : trimRight inside <+: inside ++ fence ++ rest := by
    rw [List.append_assoc]
    exact (List.rdropWhile_prefix isBlank inside).trans (List.prefix_append _ _)
  rw [fencedChars?, fencedSpan?, cutAt_append (fenceless_append hxs)]
  simp only [bind, Option.bind, hopened, cutAt_append hinside, pure, Option.map_some]
  rw [← List.suffix_iff_eq_drop.1 hstart, ← List.prefix_iff_eq_take.1 hend]

end

end Scaffold.Reply
