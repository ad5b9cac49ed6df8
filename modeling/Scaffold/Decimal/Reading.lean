import Scaffold.Decimal.Nearest
import Scaffold.Text.Blank
import Scaffold.Text.Digit

/-!
# Reading numbers

Numbers as people type them: white space around, decimal digits of any script, single low lines
between digits (`int?`, `float?`). A whole number of more than `digitLimit` digits is not read.
-/

namespace Scaffold.Decimal
open Scaffold.Text

/-- The most decimal digits of a whole number that is converted from or to text. -/
def digitLimit : Nat := 4300

/-- The value of ASCII digits. -/
def ofDigits (cs : List Char) : Nat :=
  cs.foldl (fun n c => n * 10 + (c.toNat - 48)) 0

/-- A whole number in decimal digits. -/
def digitsOf (n : Int) : String := toString n

/-- A whole number has more digits than are ever written. -/
def tooLongToWrite (n : Int) : Bool :=
  tenTo digitLimit ≤ n.natAbs

/-- Digits of every script as ASCII digits and white space as blanks, trimmed. -/
def plain (cs : List Char) : List Char :=
  trim (cs.map fun c =>
    match digitValue? c with
    | some d => Char.ofNat (48 + d)
    | none => if isBlank c then ' ' else c)

/-- A sign, if there is one, and the rest. -/
def sign : List Char → Bool × List Char
  | '-' :: cs => (true, cs)
  | '+' :: cs => (false, cs)
  | cs => (false, cs)

/-- The text without the low lines, each of which must stand between two digits. -/
def dropLowLines (afterDigit : Bool) : List Char → Option (List Char)
  | [] => some []
  | ['_'] => none
  | '_' :: c :: cs =>
    if afterDigit && c.isDigit then (dropLowLines true cs).map (c :: ·) else none
  | c :: cs => (dropLowLines c.isDigit cs).map (c :: ·)

/-- A whole number, with `none` for any other text and for too many digits. -/
def int? (s : String) : Option Int :=
  let (negative, body) := sign (plain s.toList)
  match dropLowLines false body with
  | none => none
  | some digits =>
    if digits.isEmpty || !digits.all Char.isDigit || digitLimit < digits.length then none
    else some (if negative then -Int.ofNat (ofDigits digits) else ofDigits digits)

/-- The double nearest to `significand * 10 ^ exponent`. Beyond the places that doubles have, the
exponent alone decides. -/
def scaled (negative : Bool) (significand : Nat) (exponent : Int) : Float :=
  let place := exponent + Int.ofNat (Nat.toDigits 10 significand).length
  if significand == 0 || place < -330 then nearest negative 0 1
  else if 310 < place then infinity negative
  else if 0 ≤ exponent then nearest negative (significand * tenTo exponent.toNat) 1
  else nearest negative significand (tenTo (-exponent).toNat)

/-- The exponent part of a number: nothing, or `e`, a sign and digits. -/
def exponentPart : List Char → Option Int
  | [] => some 0
  | c :: cs =>
    if c == 'e' || c == 'E' then
      let (negative, digits) := sign cs
      if digits.isEmpty || !digits.all Char.isDigit then none
      else some (if negative then -Int.ofNat (ofDigits digits) else ofDigits digits)
    else none

/-- A decimal fraction without sign: digits, a point, digits, an exponent, where one of the two
groups of digits may be empty. -/
def fraction? (negative : Bool) (cs : List Char) : Option Float :=
  let whole := cs.takeWhile Char.isDigit
  let (places, rest) :=
    match cs.dropWhile Char.isDigit with
    | '.' :: cs => (cs.takeWhile Char.isDigit, cs.dropWhile Char.isDigit)
    | cs => ([], cs)
  if whole.isEmpty && places.isEmpty then none
  else
    (exponentPart rest).map fun e =>
      scaled negative (ofDigits (whole ++ places)) (e - Int.ofNat places.length)

/-- A double: a decimal fraction, an infinity or not-a-number. -/
def float? (s : String) : Option Float :=
  match dropLowLines false (plain s.toList) with
  | none => none
  | some cs =>
    let (negative, body) := sign cs
    let name := String.ofList (body.map Char.toLower)
    if name == "inf" || name == "infinity" then some (infinity negative)
    else if name == "nan" then some (Float.ofBits 0x7ff8000000000000)
    else fraction? negative body

end Scaffold.Decimal
