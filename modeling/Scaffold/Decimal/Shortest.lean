import Scaffold.Decimal.Nearest

/-!
# The shortest decimal of a double

A double `m * 2 ^ q` stands for all reals that round to it. `shortest m q` is the decimal with the
fewest digits among them, and of those the nearest to the double. `render` writes it out.
-/

namespace Scaffold.Decimal

/-- The parts of a finite double's bits: sign, significand, and exponent of its last bit. -/
structure Binary where
  negative : Bool
  significand : Nat
  exponent : Int
deriving Repr, DecidableEq

/-- A double taken apart. -/
inductive Class
  | finite (value : Binary)
  | infinite (negative : Bool)
  | notANumber
deriving Repr, DecidableEq

/-- Take a bit pattern apart. -/
def classify (bits : Nat) : Class :=
  let negative := bits / twoTo 63 % 2 == 1
  let field := bits / twoTo 52 % 2048
  let fraction := bits % twoTo 52
  if field == 2047 then
    if fraction == 0 then .infinite negative else .notANumber
  else if field == 0 then .finite ⟨negative, fraction, -1074⟩
  else .finite ⟨negative, twoTo 52 + fraction, Int.ofNat field - 1075⟩

/-- The reals that round to a double, as numerators over one denominator. -/
structure Interval where
  low : Nat
  value : Nat
  high : Nat
  denominator : Nat
  closed : Bool

/-- The reals that round to `m * 2 ^ q`: half the gap on each side, where the gap below a power of
two is half as wide, and the ends only if `m` is even. -/
def roundingInterval (m : Nat) (q : Int) : Interval :=
  let narrow := m == twoTo 52 && q != -1074
  let up := twoTo q.toNat
  let down := twoTo (-q).toNat
  ⟨(if narrow then 4 * m - 1 else 4 * m - 2) * up, 4 * m * up, (4 * m + 2) * up, 4 * down,
    m % 2 == 0⟩

/-- The number `c * 10 ^ k` rounds to the double. -/
def Interval.holds (i : Interval) (c : Nat) (k : Int) : Bool :=
  let x := c * tenTo k.toNat * i.denominator
  let scale := tenTo (-k).toNat
  if i.closed then i.low * scale ≤ x && x ≤ i.high * scale
  else i.low * scale < x && x < i.high * scale

/-- The best of the two neighbours of the double on the grid of multiples of `10 ^ k`. -/
def Interval.neighbour? (i : Interval) (k : Int) : Option Nat :=
  let num := i.value * tenTo (-k).toNat
  let den := i.denominator * tenTo k.toNat
  let floor := num / den
  let twice := 2 * (num % den)
  let nearerBelow := twice < den || (twice == den && floor % 2 == 0)
  let (first, second) := if nearerBelow then (floor, floor + 1) else (floor + 1, floor)
  if i.holds first k then some first
  else if i.holds second k then some second
  else none

/-- An exponent `e` with `10 ^ e ≤ num / den < 10 ^ (e + 1)`, searched for downward from `e`. -/
def decimalExponentFrom (num den : Nat) : Nat → Int → Int
  | 0, e => e
  | fuel + 1, e =>
    if den * tenTo e.toNat ≤ num * tenTo (-e).toNat then e
    else decimalExponentFrom num den fuel (e - 1)

/-- The place of the leading decimal digit of a double. -/
def Interval.decimalExponent (i : Interval) : Int :=
  let guess := (Int.ofNat i.value.log2 - Int.ofNat i.denominator.log2) * 30103 / 100000 + 2
  decimalExponentFrom i.value i.denominator 8 guess

/-- The first grid with a hit, from `digits` digits on. -/
def Interval.search (i : Interval) (e : Int) : Nat → Nat → Nat × Int
  | 0, digits => (i.value * tenTo (digits - 1 - e).toNat / i.denominator, e - digits + 1)
  | fuel + 1, digits =>
    let k := e - digits + 1
    match i.neighbour? k with
    | some c => (c, k)
    | none => i.search e fuel (digits + 1)

/-- Significand and exponent of the shortest decimal that rounds to `m * 2 ^ q`. -/
def shortest (m : Nat) (q : Int) : Nat × Int :=
  let i := roundingInterval m q
  i.search i.decimalExponent 17 1

/-- How a number is written: plain between two exponents, and otherwise with an exponent. -/
structure Style where
  /-- the least exponent of the leading digit in plain writing -/
  leastPlain : Int
  /-- the first exponent of the leading digit beyond plain writing -/
  firstBeyond : Int
  /-- the least number of digits in an exponent -/
  exponentWidth : Nat
  infinity : String
  notANumber : String

/-- The exponent of the leading digit. -/
def renderExponent (style : Style) (e : Int) : String :=
  let digits := toString e.natAbs
  let zeros := String.ofList (List.replicate (style.exponentWidth - digits.length) '0')
  (if e < 0 then "e-" else "e+") ++ zeros ++ digits

/-- Digits without the zeros at their end; the empty list stays. -/
def dropTrailingZeros (cs : List Char) : List Char :=
  (cs.reverse.dropWhile (· == '0')).reverse

/-- The digits of a decimal whose leading digit stands at place `e`; a whole number keeps `.0`. -/
def renderDigits (style : Style) (digits : List Char) (e : Int) : String :=
  if style.leastPlain ≤ e && e < style.firstBeyond then
    if e < 0 then
      "0." ++ String.ofList (List.replicate (-e - 1).toNat '0' ++ digits)
    else
      let whole := digits.take (e.toNat + 1)
      let fraction := digits.drop (e.toNat + 1)
      String.ofList (whole ++ List.replicate (e.toNat + 1 - whole.length) '0') ++ "." ++
        (if fraction.isEmpty then "0" else String.ofList fraction)
  else
    match digits with
    | [] => "0" ++ renderExponent style e
    | [d] => String.singleton d ++ renderExponent style e
    | d :: ds => String.singleton d ++ "." ++ String.ofList ds ++ renderExponent style e

/-- A double as text: the fewest digits that read back. -/
def render (style : Style) (x : Float) : String :=
  match classify x.toBits.toNat with
  | .notANumber => style.notANumber
  | .infinite negative => (if negative then "-" else "") ++ style.infinity
  | .finite ⟨negative, m, q⟩ =>
    let sign := if negative then "-" else ""
    if m == 0 then sign ++ "0.0"
    else
      let (c, k) := shortest m q
      let all := Nat.toDigits 10 c
      sign ++ renderDigits style (dropTrailingZeros all) (k + Int.ofNat all.length - 1)

end Scaffold.Decimal
