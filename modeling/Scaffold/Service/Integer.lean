import Scaffold.Decimal.Reading
import Scaffold.Service.Fault

/-!
# Whole numbers in keys

The keys of an object are texts, also where they number something. `integer` reads a key as a whole
number. It takes white space around the number, one plus sign, zeros in front, zeros behind a point
and single low lines inside, all in ASCII digits.
-/

namespace Scaffold.Service

/-- Digits without a needless zero in front. -/
def isShortest (digits : List Char) : Bool :=
  !digits.isEmpty && digits.all Char.isDigit && (digits.head? != some '0' || digits.length == 1)

/-- A whole number in its shortest form; one with too many digits is a complaint of its own. -/
def shortest? (cs : List Char) : Option (Except Complaint Int) :=
  let negative := cs.head? == some '-'
  let digits := if negative then cs.tail else cs
  if !isShortest digits then none
  else if Decimal.digitLimit < digits.length then some (.error .longInteger)
  else
    let n := Int.ofNat (Decimal.ofDigits digits)
    some (.ok (if negative then -n else n))

/-- White space around a number. -/
def isMargin (c : Char) : Bool :=
  Text.isBlank c && !(28 ≤ c.toNat && c.toNat ≤ 31)

/-- A text without margins. -/
def dropMargins (cs : List Char) : List Char :=
  ((cs.dropWhile isMargin).reverse.dropWhile isMargin).reverse

/-- A text without one plus sign in front, behind which there is no other sign. -/
def dropPlus : List Char → Option (List Char)
  | '+' :: '+' :: _ => none
  | '+' :: '-' :: _ => none
  | '+' :: cs => some cs
  | cs => some cs

/-- A text behind zeros and low lines in front of it, where `last` is the last one of those. One
zero stays in front of a point, and one character stays of nothing but zeros. -/
def afterZeros (last : Char) : List Char → Option (List Char)
  | [] => some [last]
  | c :: cs =>
    if c == '0' || c == '_' then afterZeros c cs
    else if c.isDigit then some (c :: cs)
    else if c == '.' then some (last :: c :: cs)
    else none

/-- A number without needless zeros in front. -/
def dropZeros : List Char → Option (List Char)
  | [] => none
  | c :: cs =>
    if c == '0' then afterZeros c cs
    else if c.isDigit || c == '-' then some (c :: cs)
    else none

/-- A number without a point that has nothing but zeros behind it. -/
def dropPlaces (cs : List Char) : List Char :=
  match cs.dropWhile (· != '.') with
  | '.' :: places => if places.all (· == '0') then cs.takeWhile (· != '.') else cs
  | _ => cs

/-- Two low lines stand side by side. -/
def hasDoubleLine : List Char → Bool
  | '_' :: '_' :: _ => true
  | _ :: cs => hasDoubleLine cs
  | [] => false

/-- A number without its low lines, if each of them stands alone inside it. -/
def dropLines (cs : List Char) : List Char :=
  if cs.head? == some '_' || cs.getLast? == some '_' || hasDoubleLine cs then cs
  else cs.filter (· != '_')

/-- The shortest form of a number. -/
def shorten (cs : List Char) : Option (List Char) := do
  return dropLines (dropPlaces (← dropZeros (← dropPlus (dropMargins cs))))

/-- A key as a whole number. -/
def integer (key : String) : Except Complaint Int :=
  match shortest? key.toList with
  | some r => r
  | none => (((shorten key.toList).bind shortest?).getD (.error .unreadInteger))

end Scaffold.Service
