import Mathlib.Tactic
import Scaffold.Decimal.Nearest

/-!
# Whole numbers beyond all doubles

The doubles end where `2 ^ 1024` would be the nearest one: a whole number is beyond them from
`2 ^ 1024 - 2 ^ 970` on, half a unit above the largest one (`ofInt?_eq_none_iff`).
-/

namespace Scaffold.Decimal

theorem twoTo_eq (k : Nat) : twoTo k = 2 ^ k := rfl

section

variable {num den : Nat}

/-- A quotient is rounded down or up, and never to the farther side. -/
theorem roundDiv_cases (num den : Nat) :
    (roundDiv num den = num / den ∧ 2 * (num % den) ≤ den) ∨
      (roundDiv num den = num / den + 1 ∧ den ≤ 2 * (num % den)) := by
  simp only [roundDiv]
  split_ifs <;> omega

/-- Halfway between two whole numbers, an odd quotient is rounded up. -/
theorem roundDiv_of_odd (hodd : num / den % 2 = 1) (h : den ≤ 2 * (num % den)) :
    roundDiv num den = num / den + 1 := by
  have heven : ¬ (num / den % 2 == 0) = true := by simp [hodd]
  simp only [roundDiv, if_neg heven]
  split_ifs <;> omega

/-- Below a power of two, a quotient is rounded up to it from half a unit below on. -/
theorem pow_le_roundDiv_iff {half : Nat} (hhigh : num < 2 ^ 53 * (2 * half)) :
    2 ^ 53 ≤ roundDiv num (2 * half) ↔ (2 ^ 54 - 1) * half ≤ num := by
  have hunit : 0 < 2 * half := by omega
  have hdivision := Nat.div_add_mod num (2 * half)
  have hrest := Nat.mod_lt num hunit
  have hfloor : num / (2 * half) < 2 ^ 53 := (Nat.div_lt_iff_lt_mul hunit).2 hhigh
  constructor
  · intro h
    rcases roundDiv_cases num (2 * half) with ⟨hdown, -⟩ | ⟨hup, hover⟩
    · omega
    · have hlast : num / (2 * half) = 2 ^ 53 - 1 := by omega
      rw [hlast] at hdivision
      omega
  · intro h
    have hlast : num / (2 * half) = 2 ^ 53 - 1 := by
      have hle : 2 ^ 53 - 1 ≤ num / (2 * half) := (Nat.le_div_iff_mul_le hunit).2 (by omega)
      omega
    rw [hlast] at hdivision
    rw [roundDiv_of_odd (by rw [hlast]; decide) (by omega), hlast]
    decide

/-- The exponent of a whole number is the place of its first bit. -/
theorem binaryExponent_one (hnum : num ≠ 0) : binaryExponent num 1 = num.log2 := by
  have hone : Nat.log2 1 = 0 := by decide +kernel
  have hbelow : ¬ num < 1 <<< num.log2 := by
    rw [Nat.one_shiftLeft]
    exact Nat.not_lt.2 (Nat.log2_self_le hnum)
  simp [binaryExponent, hone, hbelow]

/-- A whole number of many bits, in units of the 53rd of them. -/
theorem scaledSignificand_one (hlog : 52 ≤ num.log2) :
    scaledSignificand num 1 (num.log2 - 52) = roundDiv num (2 ^ (num.log2 - 52)) := by
  have hunit : ((num.log2 : Int) - 52).toNat = num.log2 - 52 := by omega
  rw [scaledSignificand, if_pos (by omega), hunit, Nat.one_shiftLeft]

/-- A significand has 53 bits, or is the next power of two. -/
theorem scaledSignificand_bounds (hnum : num ≠ 0) :
    2 ^ 52 ≤ scaledSignificand num 1 (num.log2 - 52) ∧
      scaledSignificand num 1 (num.log2 - 52) ≤ 2 ^ 53 := by
  have hlow := Nat.log2_self_le hnum
  have hhigh := Nat.lt_log2_self (n := num)
  rcases le_or_gt 52 num.log2 with hlog | hlog
  · have hunit : 0 < 2 ^ (num.log2 - 52) := by positivity
    have hfloor : 2 ^ 52 ≤ num / 2 ^ (num.log2 - 52) := by
      rw [Nat.le_div_iff_mul_le hunit, ← pow_add, Nat.add_sub_cancel' hlog]
      exact hlow
    have hceil : num / 2 ^ (num.log2 - 52) < 2 ^ 53 := by
      rw [Nat.div_lt_iff_lt_mul hunit, ← pow_add]
      convert hhigh using 2
      omega
    rw [scaledSignificand_one hlog]
    rcases roundDiv_cases num (2 ^ (num.log2 - 52)) with ⟨h, -⟩ | ⟨h, -⟩ <;> rw [h] <;> omega
  · have hshift : (-((num.log2 : Int) - 52)).toNat = 52 - num.log2 := by omega
    have hexact : roundDiv (num * 2 ^ (52 - num.log2)) 1 = num * 2 ^ (52 - num.log2) := by
      simp [roundDiv, Nat.mod_one]
    rw [scaledSignificand, if_neg (by omega), hshift, Nat.shiftLeft_eq, hexact]
    have hbits : num.log2 + (52 - num.log2) = 52 := by omega
    constructor
    · calc 2 ^ 52 = 2 ^ num.log2 * 2 ^ (52 - num.log2) := by rw [← pow_add, hbits]
        _ ≤ num * 2 ^ (52 - num.log2) := Nat.mul_le_mul_right _ hlow
    · calc num * 2 ^ (52 - num.log2) ≤ 2 ^ (num.log2 + 1) * 2 ^ (52 - num.log2) :=
            Nat.mul_le_mul_right _ hhigh.le
        _ = 2 ^ 53 := by rw [← pow_add]; congr 1; omega

theorem nearestBits_one (hnum : num ≠ 0) :
    nearestBits num 1 =
      min infinityBits ((num.log2 + 1022) * 2 ^ 52 + scaledSignificand num 1 (num.log2 - 52)) := by
  have hexponent : max leastExponent ((num.log2 : Int) - 52) = num.log2 - 52 :=
    max_eq_right (by unfold leastExponent; omega)
  have hplaces : ((num.log2 : Int) - 52 - leastExponent).toNat = num.log2 + 1022 := by
    unfold leastExponent
    omega
  simp only [nearestBits, beq_iff_eq, if_neg hnum, binaryExponent_one hnum, hexponent, hplaces,
    twoTo_eq]

/-- Halfway between the largest double and the next power of two, infinity is the even one. -/
theorem infinityBits_le_nearestBits_iff :
    infinityBits ≤ nearestBits num 1 ↔ 2 ^ 1024 - 2 ^ 970 ≤ num := by
  have hinfinity : infinityBits = 2047 * 2 ^ 52 := rfl
  have hpower : 2 ^ 1024 = 2 ^ 54 * 2 ^ 970 := by rw [← pow_add]
  have hunit : 0 < 2 ^ 970 := by positivity
  rcases eq_or_ne num 0 with rfl | hnum
  · have hzero : nearestBits 0 1 = 0 := rfl
    omega
  have hlow := Nat.log2_self_le hnum
  have hhigh := Nat.lt_log2_self (n := num)
  obtain ⟨hleast, hmost⟩ := scaledSignificand_bounds hnum
  rw [nearestBits_one hnum, le_min_iff, and_iff_right le_rfl, hinfinity]
  rcases lt_trichotomy num.log2 1023 with hlog | hlog | hlog
  · have hsmall := (Nat.log2_lt hnum).1 hlog
    have hhalf : 2 ^ 1023 = 2 ^ 53 * 2 ^ 970 := by rw [← pow_add]
    omega
  · -- the last exponent: only the significand that is rounded up to `2 ^ 53` is too large
    have hstep : 2 ^ (1023 - 52) = 2 * 2 ^ 970 := by rw [← pow_succ']
    rw [hlog] at hhigh
    rw [scaledSignificand_one (by omega), hlog, hstep]
    have hround := pow_le_roundDiv_iff (show num < 2 ^ 53 * (2 * 2 ^ 970) by omega)
    omega
  · have hlarge := (Nat.pow_le_pow_right two_pos hlog).trans hlow
    omega

/-- A whole number beyond all doubles. -/
theorem ofInt?_eq_none_iff {n : Int} : ofInt? n = none ↔ twoTo 1024 - twoTo 970 ≤ n.natAbs := by
  rw [ofInt?, twoTo_eq, twoTo_eq, ← infinityBits_le_nearestBits_iff]
  simp

end

end Scaffold.Decimal
