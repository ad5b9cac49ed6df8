import Scaffold.Decimal.Nearest
import Scaffold.Decimal.Shortest
import Scaffold.Text.Quoted

/-!
# Points in time

A point in time is a count of microseconds since the start of 1970, in UTC. `dateText` writes it as
a date and a time of day; `stamp` is its milliseconds in hexadecimal.
-/

namespace Scaffold.Library

/-- What reads the time and draws the chance part of an identifier. -/
class Clock (ρ : Type) where
  now : StateM ρ Int
  chance : StateM ρ Nat

/-- A number with at least `width` digits. -/
def padded (width n : Nat) : String :=
  let digits := toString n
  String.ofList (List.replicate (width - digits.length) '0') ++ digits

/-- Year, month and day of a count of days since the start of 1970. Years are counted from March,
so that the leap day is the last one. -/
def dateOfDays (days : Int) : Int × Nat × Nat :=
  let z := days + 719468
  let era := z.fdiv 146097
  let dayOfEra := (z - era * 146097).toNat
  let yearOfEra :=
    (dayOfEra - dayOfEra / 1460 + dayOfEra / 36524 - dayOfEra / 146096) / 365
  let dayOfYear := dayOfEra - (365 * yearOfEra + yearOfEra / 4 - yearOfEra / 100)
  let shifted := (5 * dayOfYear + 2) / 153
  let day := dayOfYear - (153 * shifted + 2) / 5 + 1
  let month := if shifted < 10 then shifted + 3 else shifted - 9
  let year := Int.ofNat yearOfEra + era * 400 + (if month ≤ 2 then 1 else 0)
  (year, month, day)

/-- Date and time of day; fractions of a second only if there are any. -/
def dateText (micros : Int) : String :=
  let seconds := micros.fdiv 1000000
  let fraction := (micros - seconds * 1000000).toNat
  let days := seconds.fdiv 86400
  let rest := (seconds - days * 86400).toNat
  let (year, month, day) := dateOfDays days
  let date := s!"{padded 4 year.toNat}-{padded 2 month}-{padded 2 day}"
  let time := s!"{padded 2 (rest / 3600)}:{padded 2 (rest / 60 % 60)}:{padded 2 (rest % 60)}"
  let places := if fraction == 0 then "" else "." ++ padded 6 fraction
  date ++ "T" ++ time ++ places ++ "Z"

/-- A double without its fraction. -/
def wholePart (x : Float) : Int :=
  match Decimal.classify x.toBits.toNat with
  | .finite b =>
    let n := b.significand * Decimal.twoTo b.exponent.toNat / Decimal.twoTo (-b.exponent).toNat
    if b.negative then -Int.ofNat n else n
  | _ => 0

/-- The milliseconds of a point in time, in hexadecimal; the seconds are a double. -/
def stamp (micros : Int) : String :=
  let seconds := Decimal.nearest (micros < 0) micros.natAbs 1000000
  let millis := wholePart (seconds * Decimal.nearest false 1000 1)
  (if millis < 0 then "-" else "") ++ String.ofList (Nat.toDigits 16 millis.natAbs)

/-- An identifier: a point in time and a chance part. -/
def identifier (micros : Int) (chance : Nat) : String :=
  stamp micros ++ "-" ++ String.ofList (Text.hexDigits 8 chance)

end Scaffold.Library
