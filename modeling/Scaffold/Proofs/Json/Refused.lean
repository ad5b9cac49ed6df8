import Scaffold.Proofs.Json.Printed

/-!
# Texts that are too much for a reader

There is a limit to the digits of a whole number and to the nesting of a value. A text beyond one
of them is refused, but not as one that is malformed (`parse_of_long`, `parse_brackets`).
-/

namespace Scaffold.Json

/-- A text that is refused is refused before anything behind its value is looked at. -/
theorem parse_eq_error {cs : List Char} {fault : Fault} (hstart : skip cs = cs)
    (h : value depthLimit cs = .error fault) : parse (String.ofList cs) = .error fault := by
  rw [parse, String.toList_ofList, parseChars, readChars, hstart, h]
  rfl

/-- A whole number with too many digits. -/
theorem parse_of_long {digits : List Char} (hdigits : ∀ c ∈ digits, c.isDigit = true)
    (hzero : digits.head? ≠ some '0') (hlong : Decimal.digitLimit < digits.length) :
    parse (String.ofList digits) = .error (.digits digits.length) := by
  have hread := number_of_long ends_nil hdigits hzero hlong
  rw [List.append_nil] at hread
  obtain ⟨c, cs, rfl⟩ := List.exists_cons_of_length_pos (Nat.zero_lt_of_lt hlong)
  have hc := hdigits c List.mem_cons_self
  obtain ⟨item, hvalue⟩ := exists_valueWith depthLimit
  refine parse_eq_error (skip_cons (isSpace_of_isDigit hc) cs) ?_
  rw [hvalue, valueWith_of_isDigit item hc, hread]

/-- One bracket more than may be nested. -/
theorem value_brackets (depth : Nat) (rest : List Char) :
    value depth (List.replicate (depth + 1) '[' ++ rest) = .error (.depth true) := by
  induction depth with
  | zero => rfl
  | succ depth ih =>
    have hstart : skip (List.replicate (depth + 1) '[' ++ rest) =
        List.replicate (depth + 1) '[' ++ rest := skip_cons rfl _
    have hitems (fuel : Nat) :
        items (value depth) (fuel + 1) (List.replicate (depth + 1) '[' ++ rest) =
          .error (.depth true) := by
      simp only [items, ih, bind, Except.bind]
    have hbody : arrayBody (value depth) (List.replicate (depth + 1) '[' ++ rest) =
        .error (.depth true) := by
      rw [arrayBody, hstart]
      exact congrArg (Except.map _) (hitems _)
    exact hbody

/-- Brackets that are nested too deeply. -/
theorem parse_brackets {n : Nat} (h : depthLimit < n) :
    parse (String.ofList (List.replicate n '[')) = .error (.depth true) := by
  obtain ⟨k, rfl⟩ : ∃ k, n = depthLimit + 1 + k := ⟨n - (depthLimit + 1), by omega⟩
  rw [List.replicate_add]
  exact parse_eq_error (skip_cons (c := '[') rfl _) (value_brackets depthLimit _)

end Scaffold.Json
