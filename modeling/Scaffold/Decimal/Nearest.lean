/-!
# The double nearest to a quotient

`nearestBits num den` is the bit pattern of the IEEE double nearest to `num / den`, a tie going to
the even significand. All arithmetic before the bit pattern is exact.
-/

namespace Scaffold.Decimal

/-- A power of two. -/
def twoTo (k : Nat) : Nat := Nat.pow 2 k

/-- A power of ten. -/
def tenTo (k : Nat) : Nat := Nat.pow 10 k

/-- A quotient rounded to the nearest whole number, a tie to the even one. -/
def roundDiv (num den : Nat) : Nat :=
  let floor := num / den
  let twice := 2 * (num % den)
  if twice < den then floor
  else if den < twice then floor + 1
  else if floor % 2 == 0 then floor else floor + 1

/-- The whole number nearest to `num / den / 2 ^ q`. -/
def scaledSignificand (num den : Nat) (q : Int) : Nat :=
  if 0 ≤ q then roundDiv num (den <<< q.toNat) else roundDiv (num <<< (-q).toNat) den

/-- An exponent `e` with `2 ^ e ≤ num / den < 2 ^ (e + 1)`. -/
def binaryExponent (num den : Nat) : Int :=
  let guess : Int := Int.ofNat num.log2 - Int.ofNat den.log2
  let below : Bool :=
    if 0 ≤ guess then num < den <<< guess.toNat else num <<< (-guess).toNat < den
  if below then guess - 1 else guess

/-- The exponent of the last bit of a double is never below this. -/
def leastExponent : Int := -1074

/-- The bits of infinity. -/
def infinityBits : Nat := 0x7ff0000000000000

/-- The bits of the nonnegative double nearest to `num / den`; from half a unit above the largest
double on, those of infinity. -/
def nearestBits (num den : Nat) : Nat :=
  if num == 0 then 0
  else
    let q := max leastExponent (binaryExponent num den - 52)
    let m := scaledSignificand num den q
    min infinityBits ((q - leastExponent).toNat * twoTo 52 + m)

/-- The double nearest to a quotient with a sign. -/
def nearest (negative : Bool) (num den : Nat) : Float :=
  let bits := nearestBits num den
  Float.ofBits (UInt64.ofNat (if negative then bits + twoTo 63 else bits))

/-- Infinity with a sign. -/
def infinity (negative : Bool) : Float := nearest negative (tenTo 400) 1

/-- The double nearest to a whole number, or `none` if it is beyond all doubles. -/
def ofInt? (n : Int) : Option Float :=
  if nearestBits n.natAbs 1 < infinityBits then some (nearest (n < 0) n.natAbs 1) else none

end Scaffold.Decimal
