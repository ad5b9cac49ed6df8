import Mathlib.Tactic
import Scaffold.Json.Printer
import Scaffold.Json.Reader

/-!
# Text values read back

A text is printed character by character. Each character reads back, whether it is printed as it is,
as a short escape, or as one or two code units (`stringBody_escapeChar`), and so does the whole text
(`stringBody_printText`).
-/

namespace Scaffold.Json

/-! ### Code units -/

theorem hexValue?_digitChar {d : Nat} (h : d < 16) : hexValue? d.digitChar = some d := by
  interval_cases d <;> rfl

theorem hexDigits_succ {width : Nat} (hwidth : 0 < width) (n : Nat) :
    Text.hexDigits (width + 1) n = Text.hexDigits width (n / 16) ++ [(n % 16).digitChar] := by
  unfold Text.hexDigits
  by_cases hn : n < 16
  · have hzero : n / 16 = 0 := by omega
    obtain ⟨more, rfl⟩ := Nat.exists_eq_add_of_le' hwidth
    rw [hzero, Nat.mod_eq_of_lt hn, Nat.toDigits_of_lt_base hn, Nat.toDigits_zero]
    simp [List.replicate_succ']
  · rw [Nat.toDigits_of_base_le (by omega) (by omega)]
    simp

/-- Four digits are enough for a code unit. -/
theorem hexDigits_four {n : Nat} (h : n < 0x10000) :
    Text.hexDigits 4 n = [(n / 4096).digitChar, (n / 256 % 16).digitChar, (n / 16 % 16).digitChar,
      (n % 16).digitChar] := by
  have hone : Text.hexDigits 1 (n / 16 / 16 / 16) = [(n / 4096).digitChar] := by
    rw [Nat.div_div_eq_div_mul, Nat.div_div_eq_div_mul, Text.hexDigits,
      Nat.toDigits_of_lt_base (by omega)]
    rfl
  rw [hexDigits_succ (by omega), hexDigits_succ (by omega), hexDigits_succ (by omega), hone,
    Nat.div_div_eq_div_mul]
  rfl

theorem hex4?_digitChars {n : Nat} (h : n < 0x10000) :
    hex4? (n / 4096).digitChar (n / 256 % 16).digitChar (n / 16 % 16).digitChar
      (n % 16).digitChar = some n := by
  simp only [hex4?, hexValue?_digitChar (show n / 4096 < 16 by omega),
    hexValue?_digitChar (Nat.mod_lt _ (show 16 > 0 by omega)), Option.bind_eq_bind,
    Option.bind_some, Option.pure_def, Option.some.injEq]
  omega

theorem toNat_lt (c : Char) : c.toNat < 0x110000 := by
  rcases c.valid with h | h <;> simp only [Char.toNat] <;> omega

/-- The code of a character is no half of a pair. -/
theorem ofUnit_toNat {c : Char} (h : c.toNat < 0x10000) :
    isHighHalf c.toNat = false ∧ ofUnit c.toNat = .char c := by
  have hvalid : c.toNat < 0xd800 ∨ 0xdfff < c.toNat ∧ c.toNat < 0x110000 := c.valid
  have hhigh : isHighHalf c.toNat = false := by
    simp only [isHighHalf, Bool.and_eq_false_iff, decide_eq_false_iff_not]
    omega
  have hlow : isLowHalf c.toNat = false := by
    simp only [isLowHalf, Bool.and_eq_false_iff, decide_eq_false_iff_not]
    omega
  refine ⟨hhigh, ?_⟩
  rw [ofUnit, hhigh, hlow]
  exact congrArg Text.CodePoint.char (Char.ofNat_toNat c)

/-- A pair of code units is joined to the character that it was made from. -/
theorem joinHalves_toNat {c : Char} (h : ¬ c.toNat < 0x10000) :
    joinHalves (0xd800 + (c.toNat - 0x10000) / 1024) (0xdc00 + (c.toNat - 0x10000) % 1024) = c := by
  have hsum : 0x10000 + (0xd800 + (c.toNat - 0x10000) / 1024 - 0xd800) * 1024 +
      (0xdc00 + (c.toNat - 0x10000) % 1024 - 0xdc00) = c.toNat := by
    omega
  rw [joinHalves, hsum]
  exact Char.ofNat_toNat c

/-! ### Characters -/

section

variable {left n : Nat} {a b c d : Char} {rest : List Char}

theorem stringBody_plain (hquote : c ≠ '"') (hslash : c ≠ '\\') (hcode : ¬ c.toNat < 0x20) :
    stringBody left (c :: rest) = Step.cons (.char c) (stringBody left rest) := by
  rw [stringBody.eq_def]
  split <;> simp_all

theorem stringBody_escaped (hu : c ≠ 'u') (h : escaped? c = some d) :
    stringBody left ('\\' :: c :: rest) = Step.cons (.char d) (stringBody left rest) := by
  rw [stringBody, h] <;> simp [hu]

/-- One code unit that is no half of a pair. -/
theorem stringBody_unit (h : hex4? a b c d = some n) (hhigh : isHighHalf n = false)
    (hrest : rest ≠ []) :
    stringBody left ('\\' :: 'u' :: a :: b :: c :: d :: rest) =
      Step.cons (ofUnit n) (stringBody left rest) := by
  -- the reader looks ahead for another unit
  by_cases hnext : ∃ e f g h more, rest = '\\' :: 'u' :: e :: f :: g :: h :: more
  · obtain ⟨e, f, g, h', more, rfl⟩ := hnext
    rw [stringBody, h]
    simp [hhigh]
  · rw [stringBody, h]
    · simp [hrest]
    · rintro e f g h' more rfl
      exact hnext ⟨e, f, g, h', more, rfl⟩

/-- Two code units that are a pair. -/
theorem stringBody_pair {a' b' c' d' : Char} {m : Nat} (hfirst : hex4? a b c d = some n)
    (hsecond : hex4? a' b' c' d' = some m) (hhigh : isHighHalf n = true)
    (hlow : isLowHalf m = true) (hrest : rest ≠ []) :
    stringBody left ('\\' :: 'u' :: a :: b :: c :: d :: '\\' :: 'u' :: a' :: b' :: c' :: d' :: rest)
      = Step.cons (.char (joinHalves n m)) (stringBody left rest) := by
  rw [stringBody, hfirst, hsecond]
  simp [hhigh, hlow, hrest]

end

theorem stringBody_unitEscapes (left : Nat) (c : Char) {rest : List Char} (hrest : rest ≠ []) :
    stringBody left (unitEscapes c ++ rest) = Step.cons (.char c) (stringBody left rest) := by
  unfold unitEscapes
  extract_lets n
  split
  · next h =>
    obtain ⟨hhigh, hunit⟩ := ofUnit_toNat h
    rw [unitEscape, hexDigits_four h]
    refine (stringBody_unit (hex4?_digitChars h) hhigh hrest).trans ?_
    rw [hunit]
  · next h =>
    have hmax : n < 0x110000 := toNat_lt c
    have hfirst : 0xd800 + (n - 0x10000) / 1024 < 0x10000 := by omega
    have hsecond : 0xdc00 + (n - 0x10000) % 1024 < 0x10000 := by omega
    have hhigh : isHighHalf (0xd800 + (n - 0x10000) / 1024) = true := by
      simp only [isHighHalf, Bool.and_eq_true, decide_eq_true_eq]
      omega
    have hlow : isLowHalf (0xdc00 + (n - 0x10000) % 1024) = true := by
      simp only [isLowHalf, Bool.and_eq_true, decide_eq_true_eq]
      omega
    rw [unitEscape, unitEscape, hexDigits_four hfirst, hexDigits_four hsecond]
    refine (stringBody_pair (hex4?_digitChars hfirst) (hex4?_digitChars hsecond) hhigh hlow
      hrest).trans ?_
    rw [joinHalves_toNat h]

/-- Each character reads back, however it is printed. -/
theorem stringBody_escapeChar (ascii : Bool) (left : Nat) (c : Char) {rest : List Char}
    (hrest : rest ≠ []) :
    stringBody left (escapeChar ascii c ++ rest) = Step.cons (.char c) (stringBody left rest) := by
  unfold escapeChar
  split
  iterate 7 exact stringBody_escaped (by decide) rfl
  split
  · exact stringBody_unitEscapes left c hrest
  · next hcode =>
    rw [Bool.or_eq_true, not_or] at hcode
    exact stringBody_plain ‹_› ‹_› (by simpa using hcode.1)

/-- A text reads back. -/
theorem stringBody_printText (ascii : Bool) (left : Nat) (cs rest : List Char) :
    stringBody left (cs.flatMap (escapeChar ascii) ++ '"' :: rest) = .ok (cs.map .char, rest) := by
  induction cs with
  | nil => rfl
  | cons c cs ih =>
    rw [List.flatMap_cons, List.append_assoc, stringBody_escapeChar ascii left c (by simp), ih]
    rfl

/-! ### Line ends -/

theorem not_mem_unitEscape {n : Nat} (h : n < 0x10000) : '\r' ∉ unitEscape n := by
  have hdigit : ∀ d : Nat, d.digitChar ≠ '\r' := fun d => Nat.digitChar_ne '\r' (by decide)
  rw [unitEscape, hexDigits_four h]
  simp [(hdigit _).symm]

theorem not_mem_escapeChar (ascii : Bool) (c : Char) : '\r' ∉ escapeChar ascii c := by
  unfold escapeChar
  split
  iterate 7 decide
  split
  · unfold unitEscapes
    extract_lets n
    have hmax : n < 0x110000 := toNat_lt c
    split
    · next h => exact not_mem_unitEscape h
    · rw [List.mem_append, not_or]
      exact ⟨not_mem_unitEscape (by omega), not_mem_unitEscape (by omega)⟩
  · simpa using Ne.symm ‹_›

/-- A printed text has no carriage return, whatever the text has. -/
theorem not_mem_printText (ascii : Bool) (s : String) : '\r' ∉ printText ascii s := by
  simp [printText, not_mem_escapeChar]

end Scaffold.Json
