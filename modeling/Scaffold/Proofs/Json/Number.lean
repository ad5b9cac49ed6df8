import Mathlib.Data.Nat.Digits.Defs
import Scaffold.Json.Reader

/-!
# Whole numbers read back

A whole number is printed as its digits, and read up to what no number goes on with (`Ends`). So it
reads back, whatever of this kind stands behind it (`number_digitsOf`).
-/

namespace Scaffold.Json

/-! ### Digits -/

theorem toDigits_eq_cons {n : Nat} (h : n ≠ 0) :
    ∃ c cs, Nat.toDigits 10 n = c :: cs ∧ c ≠ '0' := by
  induction n using Nat.strong_induction_on with
  | _ n ih =>
    by_cases hn : n < 10
    · exact ⟨n.digitChar, [], Nat.toDigits_of_lt_base hn, by simpa using h⟩
    · obtain ⟨c, cs, hcs, hc⟩ := ih (n / 10) (by omega) (by omega)
      exact ⟨c, cs ++ [(n % 10).digitChar],
        by rw [Nat.toDigits_of_base_le (by omega) (by omega), hcs, List.cons_append], hc⟩

theorem ofDigits_toDigits (n : Nat) : Decimal.ofDigits (Nat.toDigits 10 n) = n := by
  have hcore := Nat.ofDigitChars_ten_toDigits (n := n)
  rw [Nat.ofDigitChars_eq_foldl] at hcore
  simpa only [Decimal.ofDigits, Nat.mul_comm, Char.reduceToNat] using hcore

theorem toList_digitsOf (n : Int) : (Decimal.digitsOf n).toList =
    if 0 ≤ n then Nat.toDigits 10 n.natAbs else '-' :: Nat.toDigits 10 n.natAbs := by
  rw [Decimal.digitsOf, Int.toString_eq_repr, Int.repr_eq_if]
  split
  · have habs : n.toNat = n.natAbs := by omega
    rw [Nat.toList_repr, habs]
  · have habs : (-n).toNat = n.natAbs := by omega
    rw [String.toList_append, Nat.toList_repr, habs]
    rfl

/-- A number is printed as digits, or as digits behind a sign. -/
theorem digitsOf_eq_cons (n : Int) : ∃ c cs, c.isDigit = true ∧
    ((Decimal.digitsOf n).toList = c :: cs ∨ (Decimal.digitsOf n).toList = '-' :: c :: cs) := by
  rw [toList_digitsOf]
  cases hdigits : Nat.toDigits 10 n.natAbs with
  | nil => exact absurd hdigits Nat.toDigits_ne_nil
  | cons c cs =>
    refine ⟨c, cs, Nat.isDigit_of_mem_toDigits (by omega) (le_refl 10)
      (hdigits ▸ List.mem_cons_self), ?_⟩
    split
    · exact Or.inl rfl
    · exact Or.inr rfl

theorem not_mem_digitsOf (n : Int) : '\r' ∉ (Decimal.digitsOf n).toList := by
  intro hmem
  have hdigit : '\r' ∈ Nat.toDigits 10 n.natAbs := by
    rw [toList_digitsOf] at hmem
    split at hmem
    · exact hmem
    · simpa using hmem
  exact absurd (Nat.isDigit_of_mem_toDigits (by omega) (le_refl 10) hdigit) (by decide)

/-! ### Reading -/

/-- No number goes on with what follows. -/
def Ends (rest : List Char) : Prop :=
  ∀ c ∈ rest.head?, c.isDigit = false ∧ c ≠ '.' ∧ c ≠ 'e' ∧ c ≠ 'E'

theorem ends_nil : Ends [] := by simp [Ends]

theorem ends_comma (rest : List Char) : Ends (',' :: rest) := by simp [Ends, Char.isDigit]

section

variable {rest : List Char} (hrest : Ends rest)

include hrest

theorem takeWhile_of_ends :
    rest.takeWhile Char.isDigit = [] ∧ rest.dropWhile Char.isDigit = rest := by
  cases rest with
  | nil => exact ⟨rfl, rfl⟩
  | cons c rest =>
    have hc := (hrest c rfl).1
    exact ⟨List.takeWhile_cons_of_neg (by simp [hc]), List.dropWhile_cons_of_neg (by simp [hc])⟩

theorem placesPart_of_ends : placesPart rest = (none, rest) := by
  unfold placesPart
  split
  · exact absurd rfl (hrest '.' rfl).2.1
  · rfl

theorem powerPart_of_ends : powerPart rest = (none, rest) := by
  cases rest with
  | nil => rfl
  | cons c rest =>
    obtain ⟨-, -, he, hE⟩ := hrest c rfl
    rw [powerPart, if_neg (by simp [he, hE])]

/-- Digits without a zero in front are read up to their end. -/
theorem wholePart?_of_digits {digits : List Char} (hdigits : ∀ c ∈ digits, c.isDigit = true)
    (hne : digits ≠ []) (hzero : digits.head? ≠ some '0') :
    wholePart? (digits ++ rest) = some (digits, rest) := by
  obtain ⟨htake, hdrop⟩ := takeWhile_of_ends hrest
  have hread : digits1? (digits ++ rest) = some (digits, rest) := by
    rw [digits1?, List.takeWhile_append_of_pos hdigits, htake, List.append_nil,
      List.dropWhile_append_of_pos hdigits, hdrop]
    simp [hne]
  obtain ⟨c, cs, rfl⟩ := List.exists_cons_of_ne_nil hne
  rw [List.cons_append] at hread ⊢
  rw [wholePart?, hread]
  intro _ heq
  cases heq
  exact hzero rfl

theorem wholePart?_toDigits (n : Nat) :
    wholePart? (Nat.toDigits 10 n ++ rest) = some (Nat.toDigits 10 n, rest) := by
  by_cases hn : n = 0
  · subst hn
    rfl
  · obtain ⟨c, cs, hcs, hc⟩ := toDigits_eq_cons hn
    refine wholePart?_of_digits hrest (fun _ => Nat.isDigit_of_mem_toDigits (by omega) (le_refl 10))
      Nat.toDigits_ne_nil ?_
    rw [hcs]
    simpa using hc

/-- Too many digits are no number. -/
theorem number_of_long {digits : List Char} (hdigits : ∀ c ∈ digits, c.isDigit = true)
    (hzero : digits.head? ≠ some '0') (hlong : Decimal.digitLimit < digits.length) :
    number (digits ++ rest) = .error (.digits digits.length) := by
  obtain ⟨c, cs, rfl⟩ := List.exists_cons_of_length_pos (Nat.zero_lt_of_lt hlong)
  have hread := wholePart?_of_digits hrest hdigits (List.cons_ne_nil c cs) hzero
  have hminus : ((c :: cs ++ rest).head? == some '-') = false := by
    rw [List.cons_append, List.head?_cons, beq_eq_false_iff_ne]
    rintro ⟨⟩
    cases hdigits '-' List.mem_cons_self
  simp only [number, hminus, Bool.false_eq_true, if_false, hread, placesPart_of_ends hrest,
    powerPart_of_ends hrest, if_pos hlong]

/-- A whole number reads back. -/
theorem number_digitsOf {n : Int} (hn : Decimal.tooLongToWrite n = false) :
    number ((Decimal.digitsOf n).toList ++ rest) = .ok (.int n, rest) := by
  have hlength : ¬ Decimal.digitLimit < (Nat.toDigits 10 n.natAbs).length := by
    have hpower : ∀ k, Decimal.tenTo k = 10 ^ k := fun _ => rfl
    have hsize : n.natAbs < Decimal.tenTo Decimal.digitLimit := not_le.1 (of_decide_eq_false hn)
    rw [hpower] at hsize
    exact not_lt.2 ((Nat.length_toDigits_le_iff (by omega) (by decide)).2 hsize)
  have hread := wholePart?_toDigits hrest n.natAbs
  rw [toList_digitsOf]
  split
  · next h =>
    have hminus : ((Nat.toDigits 10 n.natAbs ++ rest).head? == some '-') = false := by
      cases hdigits : Nat.toDigits 10 n.natAbs with
      | nil => exact absurd hdigits Nat.toDigits_ne_nil
      | cons c cs =>
        have hc : c.isDigit = true :=
          Nat.isDigit_of_mem_toDigits (by omega) (le_refl 10) (hdigits ▸ List.mem_cons_self)
        rw [List.cons_append, List.head?_cons, beq_eq_false_iff_ne]
        rintro ⟨⟩
        cases hc
    have habs : Int.ofNat n.natAbs = n := Int.natAbs_of_nonneg h
    simp only [number, hminus, Bool.false_eq_true, if_false, hread, placesPart_of_ends hrest,
      powerPart_of_ends hrest, hlength, ofDigits_toDigits, habs]
  · next h =>
    have hminus : (('-' :: (Nat.toDigits 10 n.natAbs ++ rest)).head? == some '-') = true := rfl
    have habs : -Int.ofNat n.natAbs = n := by
      rw [Int.ofNat_eq_natCast]
      omega
    simp only [number, List.cons_append, hminus, if_true, List.tail_cons, hread,
      placesPart_of_ends hrest, powerPart_of_ends hrest, hlength, if_false, ofDigits_toDigits, habs]

end

end Scaffold.Json
