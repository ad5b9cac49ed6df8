import Scaffold.Proofs.Text.Blank
import Scaffold.Text.Split

/-!
# Cutting and joining

* `cut_append`, `cut_of_not_mem` - what `cut` finds;
* `piece_induction` - from one separator to the next;
* `splitBy_append_cons`, `splitBy_of_forall` - the pieces of a text, front to back;
* `splitBy_eq_cons`, `splitBy_eq_append` - the text of some pieces;
* `splitBy_joinWith`, `joinWith_splitOn` - splitting undoes joining, and joining splitting;
* `cutLast_append`, `cutLast_cases` - what stands before and behind the last separator;
* `contains_eq_true_iff` - `contains` looks for a part;
* `cutAt_append`, `cutAt_eq_none_iff` - what `cutAt` finds;
* `append_part_cases` - where a part may stand;
* `map_trim_splitOn_padded` - white space around a text is white space around its pieces.
-/

namespace Scaffold.Text

variable {sep : Char}

theorem cut_of_not_mem {xs : List Char} (h : sep ∉ xs) : cut sep xs = (xs, none) := by
  induction xs with
  | nil => rfl
  | cons c cs ih =>
    have hc : c ≠ sep := fun e => h (e ▸ List.mem_cons_self)
    have hcs : sep ∉ cs := fun hm => h (List.mem_cons_of_mem c hm)
    simp [cut, hc, ih hcs]

theorem cut_append {xs : List Char} (h : sep ∉ xs) (ys : List Char) :
    cut sep (xs ++ sep :: ys) = (xs, some ys) := by
  induction xs with
  | nil => simp [cut]
  | cons c cs ih =>
    have hc : c ≠ sep := fun e => h (e ▸ List.mem_cons_self)
    have hcs : sep ∉ cs := fun hm => h (List.mem_cons_of_mem c hm)
    simp [cut, hc, ih hcs]

/-- A text has no separator, or it is cut at the first one. -/
theorem cut_cases (sep : Char) (cs : List Char) :
    (sep ∉ cs ∧ cut sep cs = (cs, none)) ∨
      ∃ xs ys, cs = xs ++ sep :: ys ∧ sep ∉ xs ∧ cut sep cs = (xs, some ys) := by
  by_cases h : sep ∈ cs
  · obtain ⟨xs, ys, rfl, hx⟩ := List.eq_append_cons_of_mem h
    exact Or.inr ⟨xs, ys, rfl, hx, cut_append hx ys⟩
  · exact Or.inl ⟨h, cut_of_not_mem h⟩

theorem mem_of_mem_cut {c : Char} {cs : List Char} (h : c ∈ (cut sep cs).1) :
    c ∈ cs ∧ c ≠ sep := by
  rcases cut_cases sep cs with ⟨hn, hcut⟩ | ⟨xs, ys, rfl, hn, hcut⟩ <;> rw [hcut] at h
  · exact ⟨h, fun e => hn (e ▸ h)⟩
  · exact ⟨List.mem_append_left _ h, fun e => hn (e ▸ h)⟩

/-- Induction along the separators: a text without one, and a text behind a piece and the
separator that ends it. -/
theorem piece_induction (sep : Char) {motive : List Char → Prop}
    (last : ∀ cs, sep ∉ cs → motive cs)
    (piece : ∀ xs rest, sep ∉ xs → motive rest → motive (xs ++ sep :: rest)) (cs : List Char) :
    motive cs := by
  induction hn : cs.length using Nat.strong_induction_on generalizing cs with
  | _ n ih =>
    subst hn
    by_cases hm : sep ∈ cs
    · obtain ⟨xs, rest, rfl, hxs⟩ := List.eq_append_cons_of_mem hm
      refine piece xs rest hxs (ih _ ?_ rest rfl)
      simp only [List.length_append, List.length_cons]
      omega
    · exact last cs hm

/-- The first separator is in one place only. -/
theorem append_cons_inj {xs ys xs' ys' : List Char} (h : xs ++ sep :: ys = xs' ++ sep :: ys')
    (hx : sep ∉ xs) (hx' : sep ∉ xs') : xs = xs' ∧ ys = ys' := by
  have hc := congrArg (cut sep) h
  rw [cut_append hx, cut_append hx'] at hc
  simpa using hc

/-! ### Pieces -/

section

variable {p : Char → Bool}

theorem exists_splitBy_eq_cons (p : Char → Bool) (cs : List Char) :
    ∃ piece pieces, splitBy p cs = piece :: pieces := by
  cases cs with
  | nil => exact ⟨[], [], rfl⟩
  | cons c cs =>
    unfold splitBy
    split
    · exact ⟨_, _, rfl⟩
    · split <;> exact ⟨_, _, rfl⟩

theorem splitBy_cons_of_pos {c : Char} (hc : p c = true) (cs : List Char) :
    splitBy p (c :: cs) = [] :: splitBy p cs := by
  simp [splitBy, hc]

theorem splitBy_cons_of_neg {c : Char} {cs piece : List Char} {pieces : List (List Char)}
    (hc : p c = false) (h : splitBy p cs = piece :: pieces) :
    splitBy p (c :: cs) = (c :: piece) :: pieces := by
  simp [splitBy, hc, h]

/-- A text without separator joins the first piece. -/
theorem splitBy_append {xs cs piece : List Char} {pieces : List (List Char)}
    (hx : ∀ c ∈ xs, p c = false) (h : splitBy p cs = piece :: pieces) :
    splitBy p (xs ++ cs) = (xs ++ piece) :: pieces := by
  induction xs with
  | nil => exact h
  | cons c xs ih =>
    exact splitBy_cons_of_neg (hx c List.mem_cons_self)
      (ih fun d hd => hx d (List.mem_cons_of_mem c hd))

theorem splitBy_of_forall {xs : List Char} (hx : ∀ c ∈ xs, p c = false) :
    splitBy p xs = [xs] := by
  simpa using splitBy_append hx (show splitBy p [] = [] :: [] from rfl)

theorem splitBy_append_cons {xs : List Char} (hx : ∀ c ∈ xs, p c = false) {sep : Char}
    (hsep : p sep = true) (ys : List Char) :
    splitBy p (xs ++ sep :: ys) = xs :: splitBy p ys := by
  simpa using splitBy_append hx (splitBy_cons_of_pos hsep ys)

/-- A piece has no separator. -/
theorem eq_false_of_mem_splitBy {cs piece : List Char} (h : piece ∈ splitBy p cs) {c : Char}
    (hc : c ∈ piece) : p c = false := by
  induction cs generalizing piece with
  | nil =>
    obtain rfl : piece = [] := by simpa [splitBy] using h
    cases hc
  | cons d cs ih =>
    obtain ⟨first, pieces, hcs⟩ := exists_splitBy_eq_cons p cs
    cases hd : p d with
    | true =>
      rw [splitBy_cons_of_pos hd, List.mem_cons] at h
      rcases h with rfl | h
      · cases hc
      · exact ih h hc
    | false =>
      rw [splitBy_cons_of_neg hd hcs, List.mem_cons] at h
      rw [hcs] at ih
      rcases h with rfl | h
      · rcases List.mem_cons.1 hc with rfl | hc
        · exact hd
        · exact ih List.mem_cons_self hc
      · exact ih (List.mem_cons_of_mem first h) hc

/-- The pieces in front of a separator, and those behind it. -/
theorem splitBy_append_sep {sep : Char} (hsep : p sep = true) (xs ys : List Char) :
    splitBy p (xs ++ sep :: ys) = splitBy p xs ++ splitBy p ys := by
  induction xs with
  | nil => exact splitBy_cons_of_pos hsep ys
  | cons c xs ih =>
    cases hc : p c with
    | true =>
      rw [List.cons_append, splitBy_cons_of_pos hc, splitBy_cons_of_pos hc, ih, List.cons_append]
    | false =>
      obtain ⟨piece, pieces, h⟩ := exists_splitBy_eq_cons p xs
      rw [h, List.cons_append] at ih
      rw [List.cons_append, splitBy_cons_of_neg hc ih, splitBy_cons_of_neg hc h, List.cons_append]

theorem splitBy_congr {q : Char → Bool} {cs : List Char} (h : ∀ c ∈ cs, p c = q c) :
    splitBy p cs = splitBy q cs := by
  induction cs with
  | nil => rfl
  | cons c cs ih =>
    rw [splitBy, splitBy, h c List.mem_cons_self, ih fun d hd => h d (List.mem_cons_of_mem c hd)]

/-- The first piece is the whole text, or a separator follows it and then the other pieces. -/
theorem splitBy_eq_cons {cs piece : List Char} {pieces : List (List Char)}
    (h : splitBy p cs = piece :: pieces) :
    (pieces = [] ∧ cs = piece) ∨
      ∃ sep rest, cs = piece ++ sep :: rest ∧ p sep = true ∧ splitBy p rest = pieces := by
  induction cs generalizing piece with
  | nil =>
    cases h
    exact Or.inl ⟨rfl, rfl⟩
  | cons c cs ih =>
    cases hc : p c with
    | true =>
      rw [splitBy_cons_of_pos hc] at h
      cases h
      exact Or.inr ⟨c, cs, rfl, hc, rfl⟩
    | false =>
      obtain ⟨first, others, hcs⟩ := exists_splitBy_eq_cons p cs
      rw [splitBy_cons_of_neg hc hcs] at h
      cases h
      rcases ih hcs with ⟨hnil, rfl⟩ | ⟨sep, rest, rfl, hsep, hrest⟩
      · exact Or.inl ⟨hnil, rfl⟩
      · exact Or.inr ⟨sep, rest, rfl, hsep, hrest⟩

/-- Between the first pieces of a text and the others stands a separator. -/
theorem splitBy_eq_append {cs : List Char} {front back : List (List Char)} (hfront : front ≠ [])
    (hback : back ≠ []) (h : splitBy p cs = front ++ back) :
    ∃ xs sep ys, cs = xs ++ sep :: ys ∧ p sep = true ∧ splitBy p xs = front ∧
      splitBy p ys = back := by
  induction front generalizing cs with
  | nil => exact absurd rfl hfront
  | cons piece front ih =>
    have hmem : piece ∈ splitBy p cs := by simp [h]
    have hpiece : ∀ c ∈ piece, p c = false := fun c hc => eq_false_of_mem_splitBy hmem hc
    rcases splitBy_eq_cons h with ⟨hnil, -⟩ | ⟨sep, rest, rfl, hsep, hrest⟩
    · exact absurd (List.append_eq_nil_iff.1 hnil).2 hback
    · by_cases hnil : front = []
      · subst hnil
        exact ⟨piece, sep, rest, rfl, hsep, splitBy_of_forall hpiece, hrest⟩
      · obtain ⟨xs, sep', ys, rfl, hsep', hxs, hys⟩ := ih hnil hrest
        refine ⟨piece ++ sep :: xs, sep', ys, by simp, hsep', ?_, hys⟩
        rw [splitBy_append_cons hpiece hsep, hxs]

/-- Splitting undoes joining. -/
theorem splitBy_joinWith {sep : Char} (hsep : p sep = true) {pieces : List (List Char)}
    (hne : pieces ≠ []) (h : ∀ piece ∈ pieces, ∀ c ∈ piece, p c = false) :
    splitBy p (joinWith [sep] pieces) = pieces := by
  induction pieces with
  | nil => exact absurd rfl hne
  | cons piece pieces ih =>
    have hp : ∀ c ∈ piece, p c = false := h piece List.mem_cons_self
    cases pieces with
    | nil => exact splitBy_of_forall hp
    | cons next rest =>
      simp only [joinWith, List.append_assoc, List.singleton_append]
      rw [splitBy_append_cons hp hsep, ih (by simp) fun q hq => h q (List.mem_cons_of_mem _ hq)]

theorem sum_splitBy (p : Char → Bool) (cs : List Char) :
    ((splitBy p cs).map fun piece => piece.length + 1).sum = cs.length + 1 := by
  induction cs with
  | nil => rfl
  | cons c cs ih =>
    obtain ⟨piece, pieces, h⟩ := exists_splitBy_eq_cons p cs
    cases hc : p c with
    | true => simp [splitBy_cons_of_pos hc, ih]; omega
    | false =>
      rw [h] at ih
      simp only [splitBy_cons_of_neg hc h, List.map_cons, List.sum_cons, List.length_cons] at ih ⊢
      omega

theorem length_joinWith_le (sep : Char) (pieces : List (List Char)) :
    (joinWith [sep] pieces).length ≤ (pieces.map fun piece => piece.length + 1).sum - 1 := by
  induction pieces with
  | nil => exact Nat.zero_le _
  | cons piece pieces ih =>
    cases pieces with
    | nil => simp [joinWith]
    | cons next rest =>
      simp only [joinWith, List.length_append, List.length_singleton, List.map_cons,
        List.sum_cons] at ih ⊢
      omega

/-- Some of the pieces of a text, joined, are not longer than the text. -/
theorem length_joinWith_le_of_sublist {pieces : List (List Char)} {cs : List Char} (sep : Char)
    (h : pieces.Sublist (splitBy p cs)) : (joinWith [sep] pieces).length ≤ cs.length := by
  have hjoin := length_joinWith_le sep pieces
  have hsum := (h.map fun piece => piece.length + 1).sum_le_sum fun _ _ => Nat.zero_le _
  rw [sum_splitBy] at hsum
  omega

end

theorem eq_sep_eq_false {xs : List Char} (h : sep ∉ xs) : ∀ c ∈ xs, (c == sep) = false := by
  intro c hc
  have hne : c ≠ sep := fun e => h (e ▸ hc)
  simpa using hne

theorem exists_splitOn_eq_cons (sep : Char) (cs : List Char) :
    ∃ piece pieces, splitOn sep cs = piece :: pieces :=
  exists_splitBy_eq_cons _ cs

theorem splitOn_cons_sep (cs : List Char) : splitOn sep (sep :: cs) = [] :: splitOn sep cs :=
  splitBy_cons_of_pos (by simp) cs

theorem splitOn_cons_of_ne {c : Char} {cs piece : List Char} {pieces : List (List Char)}
    (hc : c ≠ sep) (h : splitOn sep cs = piece :: pieces) :
    splitOn sep (c :: cs) = (c :: piece) :: pieces :=
  splitBy_cons_of_neg (by simpa using hc) h

theorem splitOn_append_of_not_mem {xs cs piece : List Char} {pieces : List (List Char)}
    (hx : sep ∉ xs) (h : splitOn sep cs = piece :: pieces) :
    splitOn sep (xs ++ cs) = (xs ++ piece) :: pieces :=
  splitBy_append (eq_sep_eq_false hx) h

theorem splitOn_of_not_mem {xs : List Char} (h : sep ∉ xs) : splitOn sep xs = [xs] :=
  splitBy_of_forall (eq_sep_eq_false h)

theorem splitOn_append {xs : List Char} (h : sep ∉ xs) (ys : List Char) :
    splitOn sep (xs ++ sep :: ys) = xs :: splitOn sep ys :=
  splitBy_append_cons (eq_sep_eq_false h) (by simp) ys

theorem splitOn_joinWith {pieces : List (List Char)} (hne : pieces ≠ [])
    (h : ∀ piece ∈ pieces, sep ∉ piece) : splitOn sep (joinWith [sep] pieces) = pieces :=
  splitBy_joinWith (by simp) hne fun piece hp => eq_sep_eq_false (h piece hp)

/-- The pieces of a text, put together again. -/
theorem joinWith_splitOn (sep : Char) (cs : List Char) : joinWith [sep] (splitOn sep cs) = cs := by
  induction cs with
  | nil => rfl
  | cons c cs ih =>
    obtain ⟨piece, pieces, h⟩ := exists_splitOn_eq_cons sep cs
    by_cases hc : c = sep
    · subst hc
      rw [splitOn_cons_sep, h, joinWith, ← h, ih]
      · rfl
      · exact List.cons_ne_nil _ _
    · rw [splitOn_cons_of_ne hc h]
      rw [h] at ih
      cases pieces with
      | nil => exact congrArg (c :: ·) ih
      | cons next pieces => exact congrArg (c :: ·) ih

/-- One more piece. -/
theorem joinWith_concat (sep : Char) {pieces : List (List Char)} (hne : pieces ≠ [])
    (last : List Char) :
    joinWith [sep] (pieces ++ [last]) = joinWith [sep] pieces ++ sep :: last := by
  induction pieces with
  | nil => exact absurd rfl hne
  | cons piece pieces ih =>
    cases pieces with
    | nil => simp [joinWith]
    | cons next rest =>
      have hrest := ih (List.cons_ne_nil next rest)
      simp only [List.cons_append, joinWith, List.append_assoc] at hrest ⊢
      rw [hrest]

theorem mem_joinWith {sep pieces} {piece : List Char} (h : piece ∈ pieces) {c : Char}
    (hc : c ∈ piece) : c ∈ joinWith sep pieces := by
  induction pieces with
  | nil => cases h
  | cons first pieces ih =>
    cases pieces with
    | nil =>
      obtain rfl := List.mem_singleton.1 h
      exact hc
    | cons next rest =>
      rw [joinWith]
      · rcases List.mem_cons.1 h with rfl | h
        · simp [hc]
        · exact List.mem_append_right _ (ih h)
      · exact List.cons_ne_nil next rest

theorem cutLast_of_not_mem {xs : List Char} (h : sep ∉ xs) : cutLast sep xs = (none, xs) := by
  rw [cutLast, cut_of_not_mem (by simpa using h)]
  simp

theorem cutLast_append {ys : List Char} (h : sep ∉ ys) (xs : List Char) :
    cutLast sep (xs ++ sep :: ys) = (some xs, ys) := by
  have hreverse : (xs ++ sep :: ys).reverse = ys.reverse ++ sep :: xs.reverse := by simp
  rw [cutLast, hreverse, cut_append (by simpa using h)]
  simp

/-- A text has no separator, or it is cut at the last one. -/
theorem cutLast_cases (sep : Char) (cs : List Char) :
    (sep ∉ cs ∧ cutLast sep cs = (none, cs)) ∨
      ∃ xs ys, cs = xs ++ sep :: ys ∧ sep ∉ ys ∧ cutLast sep cs = (some xs, ys) := by
  by_cases h : sep ∈ cs
  · obtain ⟨ys, xs, hreverse, hy⟩ := List.eq_append_cons_of_mem (List.mem_reverse.2 h)
    have hcs : cs = xs.reverse ++ sep :: ys.reverse := by
      rw [← List.reverse_reverse cs, hreverse]
      simp
    have hlast : sep ∉ ys.reverse := by simpa using hy
    exact Or.inr ⟨xs.reverse, ys.reverse, hcs, hlast, hcs ▸ cutLast_append hlast _⟩
  · exact Or.inl ⟨h, cutLast_of_not_mem h⟩

/-- What stands behind the last separator does not change with what stands in front of another. -/
theorem cutLast_append_snd (xs ys : List Char) :
    (cutLast sep (xs ++ sep :: ys)).2 = (cutLast sep ys).2 := by
  have hreverse : (xs ++ sep :: ys).reverse = ys.reverse ++ sep :: xs.reverse := by simp
  unfold cutLast
  rw [hreverse]
  rcases cut_cases sep ys.reverse with ⟨hno, hcut⟩ | ⟨us, vs, he, hus, hcut⟩
  · rw [cut_append hno, hcut]
  · rw [he, List.append_assoc, List.cons_append, cut_append hus, cut_append hus]

/-! ### Parts -/

section

variable {part : List Char}

theorem contains_eq_true_iff {cs : List Char} : contains part cs = true ↔ part <:+: cs := by
  induction cs with
  | nil => simp [contains]
  | cons c cs ih =>
    rw [contains, List.infix_cons_iff, Bool.or_eq_true, List.isPrefixOf_iff_prefix, ih]

theorem cutAt_eq_none_iff (hne : part ≠ []) {cs : List Char} :
    cutAt part cs = none ↔ ¬ part <:+: cs := by
  induction cs with
  | nil => simp [cutAt, hne]
  | cons c cs ih =>
    rw [cutAt, List.infix_cons_iff, not_or, ← List.isPrefixOf_iff_prefix]
    by_cases h : part.isPrefixOf (c :: cs) = true <;> simp [h, ih]

/-- A text is cut where the part stands first. -/
theorem cutAt_append {xs : List Char} (h : ¬ part <:+: xs ++ part.dropLast) (ys : List Char) :
    cutAt part (xs ++ part ++ ys) = some (xs, ys) := by
  have hne : part ≠ [] := fun he => h (he ▸ List.nil_infix)
  induction xs with
  | nil =>
    obtain ⟨c, cs, rfl⟩ := List.exists_cons_of_ne_nil hne
    simp [cutAt, List.isPrefixOf_iff_prefix]
  | cons c xs ih =>
    rw [List.cons_append, List.infix_cons_iff, not_or] at h
    have hfront : part.isPrefixOf (c :: (xs ++ part ++ ys)) = false := by
      rw [Bool.eq_false_iff, ne_eq, List.isPrefixOf_iff_prefix]
      intro hp
      -- the part would end before the last character of the one that stands behind `xs`
      have hshort : c :: (xs ++ part.dropLast) <+: c :: (xs ++ part ++ ys) := by
        refine (List.prefix_cons_inj c).2 ?_
        rw [List.append_assoc, List.prefix_append_right_inj]
        exact (List.dropLast_prefix part).trans (List.prefix_append part ys)
      refine h.1 (List.prefix_of_prefix_length_le hp hshort ?_)
      simp only [List.length_cons, List.length_append, List.length_dropLast]
      omega
    rw [List.cons_append, List.cons_append, cutAt, hfront, ih h.2]
    rfl

/-- A part without some character stands before it or behind it. -/
theorem append_part_cases {c : Char} (hc : c ∉ part) {front back xs ys : List Char}
    (h : front ++ part ++ back = xs ++ c :: ys) :
    (∃ rest, xs = front ++ part ++ rest) ∨
      ∃ rest, front = xs ++ c :: rest ∧ ys = rest ++ part ++ back := by
  rcases List.append_eq_append_iff.1 h with ⟨rest, hxs, -⟩ | ⟨rest, hpart, hys⟩
  · exact Or.inl ⟨rest, hxs⟩
  cases rest with
  | nil => exact Or.inl ⟨[], by simpa using hpart.symm⟩
  | cons d rest =>
    obtain ⟨rfl, rfl⟩ := List.cons.inj hys
    rcases List.append_eq_append_iff.1 hpart with ⟨more, -, hmore⟩ | ⟨more, hfront, hmore⟩
    · exact absurd (by simp [hmore]) hc
    · cases more with
      | nil =>
        rw [List.nil_append] at hmore
        exact absurd (by simp [← hmore]) hc
      | cons e more =>
        obtain ⟨rfl, rfl⟩ := List.cons.inj hmore
        exact Or.inr ⟨more, hfront, rfl⟩

/-- A part without some character does not reach over it. -/
theorem infix_append_cons_iff {c : Char} (hc : c ∉ part) {xs ys : List Char} :
    part <:+: xs ++ c :: ys ↔ part <:+: xs ∨ part <:+: ys := by
  constructor
  · rintro ⟨front, back, h⟩
    rcases append_part_cases hc h with ⟨rest, hxs⟩ | ⟨rest, -, hys⟩
    · exact Or.inl ⟨front, rest, hxs.symm⟩
    · exact Or.inr ⟨rest, back, hys.symm⟩
  · rintro (h | h)
    · exact h.trans (List.prefix_append xs _).isInfix
    · exact h.trans ((List.suffix_cons c ys).trans (List.suffix_append xs _)).isInfix

end

/-- What follows a text and has no separator joins the last piece. -/
theorem splitOn_append_last {ws : List Char} (h : sep ∉ ws) (cs : List Char) :
    ∃ front last, splitOn sep cs = front ++ [last] ∧
      splitOn sep (cs ++ ws) = front ++ [last ++ ws] := by
  induction cs with
  | nil => exact ⟨[], [], rfl, by simpa using splitOn_of_not_mem h⟩
  | cons c cs ih =>
    obtain ⟨front, last, h1, h2⟩ := ih
    by_cases hc : c = sep
    · subst hc
      exact ⟨[] :: front, last, by rw [splitOn_cons_sep, h1]; rfl,
        by rw [List.cons_append, splitOn_cons_sep, h2]; rfl⟩
    · cases front with
      | nil => exact ⟨[], c :: last, splitOn_cons_of_ne hc h1, splitOn_cons_of_ne hc h2⟩
      | cons piece front =>
        exact ⟨(c :: piece) :: front, last, splitOn_cons_of_ne hc h1, splitOn_cons_of_ne hc h2⟩

/-- White space around a text is white space around its first and its last piece. -/
theorem map_trim_splitOn_padded {a b : List Char} (ha : Blanks a) (hb : Blanks b)
    (hsep : isBlank sep = false) (cs : List Char) :
    (splitOn sep (a ++ cs ++ b)).map trim = (splitOn sep cs).map trim := by
  have hfront : (splitOn sep (a ++ cs)).map trim = (splitOn sep cs).map trim := by
    obtain ⟨piece, pieces, h⟩ := exists_splitOn_eq_cons sep cs
    rw [splitOn_append_of_not_mem (ha.not_mem hsep) h, h, List.map_cons, List.map_cons,
      trim_append_left ha]
  obtain ⟨front, last, h1, h2⟩ := splitOn_append_last (hb.not_mem hsep) (a ++ cs)
  rw [h2, ← hfront, h1, List.map_append, List.map_append, List.map_singleton, List.map_singleton,
    trim_append_right hb]

end Scaffold.Text
