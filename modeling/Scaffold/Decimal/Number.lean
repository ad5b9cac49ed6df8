import Scaffold.Json.Value

/-!
# Numbers of settings

A setting's number is whole or a double, or a flag that counts as 0 or 1. Numbers are compared by
value: 1, 1.0 and a flag that is set are the same. Not-a-number has no value that could be compared,
so each one that is read is another one, and is the same as itself only.
-/

namespace Scaffold

/-- The number of a setting. -/
inductive Number
  | int (n : Int)
  | float (x : Float)
  | flag (b : Bool)
  /-- the not-a-number that one reading gave -/
  | undefined (reading : Nat)

namespace Number

/-- Not-a-number as a double. -/
def nan : Float := Float.ofBits 0x7ff8000000000000

/-- The number of a double that was read. -/
def ofDouble (x : Float) : Number :=
  match Decimal.classify x.toBits.toNat with
  | .notANumber => undefined 0
  | _ => float x

/-- The number as a given reading gives it. -/
def readAt (reading : Nat) : Number → Number
  | undefined _ => undefined reading
  | n => n

/-- The number as a JSON value. -/
def toJson : Number → Json
  | int n => .int n
  | float x => .float x
  | flag b => .bool b
  | undefined _ => .float nan

/-- The number of a JSON value. -/
def ofJson? : Json → Option Number
  | .int n => some (int n)
  | .float x => some (float x)
  | .bool b => some (flag b)
  | _ => none

/-- The value of a number: a whole multiple of a power of two, or no finite value at all. The
not-a-number that settings have a word for is one value; the others have the reading they are of. -/
inductive Value
  | finite (significand : Int) (exponent : Int)
  | infinite (negative : Bool)
  | notANumber (reading : Option Nat)
deriving DecidableEq

/-- Take out factors of two, at most `fuel`. -/
def reduce : Nat → Int → Int → Value
  | 0, m, q => .finite m q
  | fuel + 1, m, q =>
    if m == 0 then .finite 0 0
    else if m % 2 == 0 then reduce fuel (m / 2) (q + 1)
    else .finite m q

/-- The value of a whole number. -/
def valueOfInt (n : Int) : Value := reduce (n.natAbs.log2 + 1) n 0

/-- The value of a number, in lowest terms. -/
def value : Number → Value
  | int n => valueOfInt n
  | flag b => valueOfInt (if b then 1 else 0)
  | float x =>
    match Decimal.classify x.toBits.toNat with
    | .finite b =>
      reduce 60 (if b.negative then -Int.ofNat b.significand else b.significand) b.exponent
    | .infinite negative => .infinite negative
    | .notANumber => .notANumber none
  | undefined reading => .notANumber (some reading)

/-- The same value. -/
def same (a b : Number) : Bool := a.value == b.value

/-- Zero, whichever way it is written. -/
def isZero (a : Number) : Bool := a.value == .finite 0 0

end Number

end Scaffold
