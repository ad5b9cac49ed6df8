import Mathlib.Tactic
import Scaffold.Text.Case

/-!
# Lower case in parts

The small form of a character depends on the rest of the text, but for the capital sigma on nothing
else (`lowerAt`). So a text in lower case is made up of its parts in lower case, each between the
others (`lowerChars_between`), and a part reads between them as it does alone just when each of its
capital sigmas does (`lowerBetween_eq_alone_iff`). In a part in which these are all enclosed by
characters that count, they do (`Enclosed.readsAlone`).
-/

namespace Scaffold.Text

/-- The capital sigma. -/
def sigma : Char := '\u03a3'

/-- A capital sigma between two parts, the first one in reverse, ends a word. -/
def endsWord (before after : List Char) : Bool := meetsCased before && !meetsCased after

/-- The small form of a character between two parts of a text, the first one in reverse. -/
def lowerAt (before : List Char) (c : Char) (after : List Char) : List Char :=
  if c == '\u0130' then ['i', '\u0307']
  else if c == sigma then if endsWord before after then ['\u03c2'] else ['\u03c3']
  else [lowerChar c]

/-- The lower case of a part of a text between two others, the first one in reverse. -/
def lowerBetween (before after : List Char) : List Char → List Char
  | [] => []
  | c :: cs => lowerAt before c (cs ++ after) ++ lowerBetween (c :: before) after cs

section

variable {before before' after after' front back part : List Char} {c : Char}

/-! ### Parts of a text -/

theorem lowerAfter_eq (before cs : List Char) :
    lowerAfter before cs = lowerBetween before [] cs := by
  induction cs generalizing before with
  | nil => rfl
  | cons c cs ih =>
    rw [lowerAfter, lowerBetween, ih, List.append_nil]
    rfl

theorem lowerChars_eq (cs : List Char) : lowerChars cs = lowerBetween [] [] cs :=
  lowerAfter_eq [] cs

theorem lowerBetween_append (before after xs ys : List Char) :
    lowerBetween before after (xs ++ ys) =
      lowerBetween before (ys ++ after) xs ++ lowerBetween (xs.reverse ++ before) after ys := by
  induction xs generalizing before with
  | nil => rfl
  | cons c xs ih => simp [lowerBetween, ih]

/-- The lower case of a text around the lower case of a part of it. -/
theorem lowerChars_between (front part back : List Char) :
    lowerChars (front ++ part ++ back) = lowerBetween [] (part ++ back) front ++
      lowerBetween front.reverse back part ++ lowerBetween (front ++ part).reverse [] back := by
  rw [lowerChars_eq, lowerBetween_append, lowerBetween_append]
  simp

/-! ### Parts that read alike -/

theorem lowerAt_sigma (before after : List Char) : lowerAt before sigma after =
    if endsWord before after then ['\u03c2'] else ['\u03c3'] := by
  have hdot : (sigma == '\u0130') = false := by decide
  simp only [lowerAt, hdot, Bool.false_eq_true, if_false, beq_self_eq_true, if_true]

theorem length_lowerAt (before after before' after' : List Char) (c : Char) :
    (lowerAt before c after).length = (lowerAt before' c after').length := by
  unfold lowerAt
  split
  · rfl
  · split
    · split <;> split <;> rfl
    · rfl

/-- Where a character stands matters for the capital sigma only. -/
theorem lowerAt_eq_iff : lowerAt before c after = lowerAt before' c after' ↔
    (c = sigma → endsWord before after = endsWord before' after') := by
  by_cases hc : c = sigma
  · subst hc
    rw [lowerAt_sigma, lowerAt_sigma]
    cases endsWord before after <;> cases endsWord before' after' <;> simp
  · have hne : (c == sigma) = false := beq_false_of_ne hc
    simp [lowerAt, hne, hc]

theorem lowerBetween_eq_iff (part : List Char) :
    lowerBetween before after part = lowerBetween before' after' part ↔
      ∀ xs ys, part = xs ++ sigma :: ys →
        endsWord (xs.reverse ++ before) (ys ++ after) =
          endsWord (xs.reverse ++ before') (ys ++ after') := by
  induction part generalizing before before' with
  | nil => simp [lowerBetween]
  | cons c cs ih =>
    -- a character has as many small letters wherever it stands, so the first one's are told apart
    have hsplit : lowerBetween before after (c :: cs) = lowerBetween before' after' (c :: cs) ↔
        lowerAt before c (cs ++ after) = lowerAt before' c (cs ++ after') ∧
          lowerBetween (c :: before) after cs = lowerBetween (c :: before') after' cs := by
      constructor
      · exact fun h => List.append_inj h (length_lowerAt _ _ _ _ c)
      · rintro ⟨hfirst, hrest⟩
        rw [lowerBetween, lowerBetween, hfirst, hrest]
    rw [hsplit, lowerAt_eq_iff, ih]
    constructor
    · rintro ⟨hfirst, hrest⟩ xs ys he
      cases xs with
      | nil =>
        cases he
        exact hfirst rfl
      | cons x xs =>
        cases he
        simpa using hrest xs ys rfl
    · intro h
      refine ⟨?_, fun xs ys he => ?_⟩
      · rintro rfl
        exact h [] cs rfl
      · simpa using h (c :: xs) ys (by rw [he, List.cons_append])

/-- Each capital sigma of a part ends a word between the other parts just when it does alone. -/
def ReadsAlone (front part back : List Char) : Prop :=
  ∀ xs ys, part = xs ++ sigma :: ys →
    endsWord (xs.reverse ++ front.reverse) (ys ++ back) = endsWord xs.reverse ys

/-- A part reads between others as it does alone just when its capital sigmas do. -/
theorem lowerBetween_eq_alone_iff :
    lowerBetween front.reverse back part = lowerChars part ↔ ReadsAlone front part back := by
  rw [lowerChars_eq, lowerBetween_eq_iff]
  simp [ReadsAlone]

/-- A part that reads as it does alone is found in lower case. -/
theorem ReadsAlone.occurs (h : ReadsAlone front part back) :
    lowerChars part <:+: lowerChars (front ++ part ++ back) := by
  rw [lowerChars_between, lowerBetween_eq_alone_iff.2 h]
  exact ⟨_, _, rfl⟩

/-! ### Sigmas that are enclosed -/

/-- Each capital sigma of a part has a character on either side in the part that is not ignored. -/
def Enclosed (part : List Char) : Prop :=
  ∀ xs ys, part = xs ++ sigma :: ys →
    (∃ c ∈ xs, isCaseIgnorable c = false) ∧ ∃ c ∈ ys, isCaseIgnorable c = false

theorem meetsCased_cons (hc : isCaseIgnorable c = false) (cs : List Char) :
    meetsCased (c :: cs) = isCased c := by
  rw [meetsCased, List.dropWhile_cons_of_neg (by simp [hc])]

/-- What stands behind a character that is not ignored is not met. -/
theorem meetsCased_append (h : ∃ c ∈ front, isCaseIgnorable c = false) (back : List Char) :
    meetsCased (front ++ back) = meetsCased front := by
  induction front with
  | nil => simp at h
  | cons c cs ih =>
    cases hc : isCaseIgnorable c with
    | true =>
      have hcs : ∃ c ∈ cs, isCaseIgnorable c = false := by
        obtain ⟨c', hmem, hc'⟩ := h
        rcases List.mem_cons.1 hmem with rfl | hmem
        · rw [hc] at hc'
          cases hc'
        · exact ⟨c', hmem, hc'⟩
      simpa [meetsCased, hc] using ih hcs
    | false => rw [List.cons_append, meetsCased_cons hc, meetsCased_cons hc]

/-- Enclosed sigmas read alike everywhere. -/
theorem Enclosed.readsAlone (h : Enclosed part) (front back : List Char) :
    ReadsAlone front part back := by
  intro xs ys he
  obtain ⟨⟨c, hc, hcounts⟩, hback⟩ := h xs ys he
  rw [endsWord, meetsCased_append ⟨c, List.mem_reverse.2 hc, hcounts⟩, meetsCased_append hback]
  rfl

end

end Scaffold.Text
