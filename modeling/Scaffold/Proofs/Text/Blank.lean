import Mathlib.Data.List.DropRight
import Mathlib.Tactic
import Scaffold.Text.Blank
import Scaffold.Text.Word

/-!
# White space at the ends of a text

* `Blanks` - texts of white space only; `trim` drops one before or behind a text;
* `trim_eq_self_iff` - a text is trimmed when neither its first nor its last character is blank;
* `isBlank_of_mem_words` - words have no white space;
* `isBlank_of_isWord` - no word character is blank, from the list of all blank code points.
-/

namespace Scaffold.Text

/-- Nothing but white space. -/
def Blanks (ws : List Char) : Prop := ∀ c ∈ ws, isBlank c = true

theorem Blanks.nil : Blanks [] := by simp [Blanks]

theorem Blanks.append {a b : List Char} (ha : Blanks a) (hb : Blanks b) : Blanks (a ++ b) := by
  intro c hc
  rcases List.mem_append.1 hc with h | h
  · exact ha c h
  · exact hb c h

theorem Blanks.not_mem {ws : List Char} (h : Blanks ws) {c : Char} (hc : isBlank c = false) :
    c ∉ ws := by
  intro hm
  rw [h c hm] at hc
  cases hc

theorem trimRight_append {ws : List Char} (h : Blanks ws) (cs : List Char) :
    trimRight (cs ++ ws) = trimRight cs := by
  unfold trimRight
  rw [List.reverse_append, List.dropWhile_append_of_pos]
  intro c hc
  exact h c (List.mem_reverse.1 hc)

theorem trim_append_left {ws : List Char} (h : Blanks ws) (cs : List Char) :
    trim (ws ++ cs) = trim cs := by
  unfold trim trimLeft
  rw [List.dropWhile_append_of_pos h]

theorem trim_append_right {ws : List Char} (h : Blanks ws) (cs : List Char) :
    trim (cs ++ ws) = trim cs := by
  unfold trim trimLeft
  rw [List.dropWhile_append]
  split
  · next he =>
    have hw : ws.dropWhile isBlank = [] := List.dropWhile_eq_nil_iff.2 h
    rw [hw, List.isEmpty_iff.1 he]
  · exact trimRight_append h _

theorem dropWhile_append_cons {α : Type} {p : α → Bool} {x : α} (hx : p x = false)
    (xs ys : List α) : (xs ++ x :: ys).dropWhile p = xs.dropWhile p ++ x :: ys := by
  rw [List.dropWhile_append]
  split
  · next he =>
    rw [List.isEmpty_iff.1 he, List.dropWhile_cons_of_neg (by simp [hx]), List.nil_append]
  · rfl

/-- Nothing is trimmed behind a character that is not blank. -/
theorem trimLeft_append_cons {c : Char} (hc : isBlank c = false) (xs ys : List Char) :
    trimLeft (xs ++ c :: ys) = trimLeft xs ++ c :: ys :=
  dropWhile_append_cons hc xs ys

theorem trimRight_append_cons {c : Char} (hc : isBlank c = false) (xs ys : List Char) :
    trimRight (xs ++ c :: ys) = xs ++ c :: trimRight ys := by
  have hreverse : (xs ++ c :: ys).reverse = ys.reverse ++ c :: xs.reverse := by simp
  rw [trimRight, hreverse, dropWhile_append_cons hc, trimRight]
  simp

/-- Padding disappears. -/
theorem trim_padded {a b : List Char} (ha : Blanks a) (hb : Blanks b) (cs : List Char) :
    trim (a ++ cs ++ b) = trim cs := by
  rw [trim_append_right hb, trim_append_left ha]

/-- A text is what `trim` leaves, with white space around it. -/
theorem exists_padding (cs : List Char) :
    ∃ a b, Blanks a ∧ Blanks b ∧ cs = a ++ trim cs ++ b := by
  refine ⟨cs.takeWhile isBlank, (trimLeft cs).rtakeWhile isBlank, ?_, ?_, ?_⟩
  · exact fun c hc => List.mem_takeWhile_imp hc
  · exact fun c hc => List.mem_rtakeWhile_imp hc
  · have hl : cs.takeWhile isBlank ++ trimLeft cs = cs := List.takeWhile_append_dropWhile
    have hr : trim cs ++ (trimLeft cs).rtakeWhile isBlank = trimLeft cs :=
      List.rdropWhile_append_rtakeWhile
    rw [List.append_assoc, hr, hl]

/-- Trimming leaves nothing to trim. -/
theorem trim_trim (cs : List Char) : trim (trim cs) = trim cs := by
  obtain ⟨a, b, ha, hb, hcs⟩ := exists_padding cs
  rw [← trim_padded ha hb (trim cs), ← hcs]

theorem trim_trimRight (cs : List Char) : trim (trimRight cs) = trim cs := by
  have hblanks : Blanks (cs.rtakeWhile isBlank) := fun c hc => List.mem_rtakeWhile_imp hc
  have hcs : trimRight cs ++ cs.rtakeWhile isBlank = cs := List.rdropWhile_append_rtakeWhile
  rw [← trim_append_right hblanks (trimRight cs), hcs]

theorem strip_strip (s : String) : strip (strip s) = strip s := by
  rw [strip, toList_strip, trim_trim, strip]

theorem trim_sublist (cs : List Char) : (trim cs).Sublist cs :=
  (List.rdropWhile_prefix isBlank (l := trimLeft cs)).sublist.trans
    (List.dropWhile_suffix isBlank).sublist

theorem trim_eq_self_iff (cs : List Char) :
    trim cs = cs ↔
      ∀ c, (cs.head? = some c ∨ cs.getLast? = some c) → isBlank c = false := by
  constructor
  · intro h c hc
    have hl : trimLeft cs = cs := by
      have h1 : (trim cs).length ≤ (trimLeft cs).length :=
        (List.rdropWhile_prefix isBlank (l := trimLeft cs)).length_le
      rw [h] at h1
      exact (List.dropWhile_suffix isBlank).eq_of_length_le h1
    have hr : trimRight cs = cs := by rwa [trim, hl] at h
    cases cs with
    | nil => simp at hc
    | cons d ds =>
      rcases hc with hc | hc
      · have := List.dropWhile_eq_self_iff.1 hl (by simp)
        simp only [List.head?_cons, Option.some.injEq] at hc
        simpa [hc] using this
      · have := List.rdropWhile_eq_self_iff.1 hr (by simp)
        rw [List.getLast?_eq_getLast_of_ne_nil (by simp), Option.some.injEq] at hc
        simpa [hc] using this
  · intro h
    have hl : trimLeft cs = cs := by
      refine List.dropWhile_eq_self_iff.2 fun hlen => ?_
      have := h cs[0] (Or.inl (by rw [List.head?_eq_getElem?, List.getElem?_eq_getElem hlen]))
      simp [this]
    rw [trim, hl]
    refine List.rdropWhile_eq_self_iff.2 fun hne => ?_
    have := h (cs.getLast hne) (Or.inr (List.getLast?_eq_getLast_of_ne_nil hne))
    simp [this]

theorem trim_eq_self_of_forall {cs : List Char} (h : ∀ c ∈ cs, isBlank c = false) :
    trim cs = cs := by
  refine (trim_eq_self_iff cs).2 fun c hc => h c ?_
  rcases hc with hc | hc
  · exact List.mem_of_mem_head? hc
  · exact List.mem_of_getLast? hc

/-- Words have no white space. -/
theorem isBlank_of_mem_words {cs word : List Char} (h : word ∈ words cs) {c : Char} (hc : c ∈ word) :
    isBlank c = false := by
  have hfrom : ∀ cs seen, (∀ c ∈ seen, isBlank c = false) → ∀ word ∈ wordsFrom seen cs,
      ∀ c ∈ word, isBlank c = false := by
    intro cs
    induction cs with
    | nil =>
      intro seen hseen word hword c hc
      unfold wordsFrom at hword
      split at hword
      · cases hword
      · rw [List.mem_singleton.1 hword, List.mem_reverse] at hc
        exact hseen c hc
    | cons d cs ih =>
      intro seen hseen word hword c hc
      unfold wordsFrom at hword
      by_cases hd : isBlank d = true
      · rw [if_pos hd] at hword
        split at hword
        · exact ih [] (by simp) word hword c hc
        · rcases List.mem_cons.1 hword with rfl | hword
          · exact hseen c (List.mem_reverse.1 hc)
          · exact ih [] (by simp) word hword c hc
      · rw [if_neg hd] at hword
        refine ih (d :: seen) (fun e he => ?_) word hword c hc
        rcases List.mem_cons.1 he with rfl | he
        · simpa using hd
        · exact hseen e he
  exact hfrom cs [] (by simp) word h c hc

/-- The code points of white space. -/
def blankCodes : List Nat :=
  [9, 10, 11, 12, 13, 28, 29, 30, 31, 32, 0x85, 0xa0, 0x1680, 0x2000, 0x2001, 0x2002, 0x2003,
    0x2004, 0x2005, 0x2006, 0x2007, 0x2008, 0x2009, 0x200a, 0x2028, 0x2029, 0x202f, 0x205f, 0x3000]

theorem mem_blankCodes {c : Char} (h : isBlank c = true) : c.toNat ∈ blankCodes := by
  simp only [isBlank, Bool.or_eq_true, Bool.and_eq_true, decide_eq_true_eq, beq_iff_eq] at h
  simp only [blankCodes, List.mem_cons, List.not_mem_nil, or_false]
  omega

theorem blankCodes_not_covered :
    blankCodes.all (fun n =>
      n < 128 || !wordRanges.toList.any fun r => r.1 ≤ n && n ≤ r.2) = true := by
  decide +kernel

theorem blankCodes_not_alphanum : ∀ n ∈ blankCodes, n < 128 →
    ((Char.ofNat n).isAlphanum || Char.ofNat n == '_') = false := by
  decide

theorem isWord_of_mem_blankCodes {n : Nat} (h : n ∈ blankCodes) (hn : (Char.ofNat n).toNat = n) :
    isWord (Char.ofNat n) = false := by
  unfold isWord Ranges.covers
  rw [hn]
  split
  · next hlt => exact blankCodes_not_alphanum n h hlt
  · next hge =>
    have := List.all_eq_true.1 blankCodes_not_covered n h
    simpa [hge, ← Array.any_toList] using this

theorem isBlank_of_isWord {c : Char} (h : isWord c = true) : isBlank c = false := by
  by_contra hb
  have hw := isWord_of_mem_blankCodes (mem_blankCodes (by simpa using hb))
    (by rw [Char.ofNat_toNat])
  rw [Char.ofNat_toNat, h] at hw
  cases hw

end Scaffold.Text
