import Scaffold.Decimal.Reading
import Scaffold.Text.Case
import Scaffold.Text.Split
import Scaffold.Yaml.Fault
import Scaffold.Yaml.Plain
import Scaffold.Yaml.Value

/-!
# Values of scalars

What a scalar's text stands for under each of YAML's own tags (`scalarValue`). A tag may be put on
any text, so each reading can fail.
-/

namespace Scaffold.Yaml

/-- Digits of a base, the first letters counting from ten. -/
def digitOf? (base : Nat) (c : Char) : Option Nat :=
  let n :=
    if c.isDigit then c.toNat - 48
    else if 'a' ≤ c && c ≤ 'z' then c.toNat - 87
    else if 'A' ≤ c && c ≤ 'Z' then c.toNat - 55
    else 36
  if n < base then some n else none

/-- The text without the letter that announces a base. -/
def withoutBaseMark (base : Nat) : List Char → List Char
  | '0' :: c :: cs =>
    let mark := if base == 16 then 'x' else if base == 8 then 'o' else 'b'
    if base != 10 && c.toLower == mark then cs else '0' :: c :: cs
  | cs => cs

/-- A whole number in a base, with white space around and a sign before it. Only in base ten the
number of digits is limited. -/
def wholeIn (base : Nat) (text : List Char) : Except Fault Int :=
  let (negative, body) := Decimal.sign (Decimal.plain text)
  let body := withoutBaseMark base body
  let digits := body.map (digitOf? base)
  let count := (digits.takeWhile Option.isSome).length
  if base == 10 && Decimal.digitLimit < count then .error (.tooManyDigits count)
  else if body.isEmpty || count != body.length then
    .error (.wholeNumber base (String.ofList text))
  else
    let n := digits.foldl (fun n d => n * base + d.getD 0) 0
    .ok (if negative then -Int.ofNat n else n)

/-- A sign before a number, and the rest; there must be some text. -/
def signOf : List Char → Except Fault (Bool × List Char)
  | [] => .error .noNumber
  | '-' :: cs => .ok (true, cs)
  | '+' :: cs => .ok (false, cs)
  | cs => .ok (false, cs)

/-- The value of sexagesimal places. -/
def ofPlaces (places : List Int) : Int :=
  places.foldl (fun n place => n * 60 + place) 0

/-- A whole number: the mark at its start tells the base. -/
def wholeValue (text : String) : Except Fault Int := do
  let (negative, body) ← signOf (text.toList.filter (· != '_'))
  let n ←
    match body with
    | ['0'] => pure 0
    | '0' :: 'b' :: cs => wholeIn 2 cs
    | '0' :: 'x' :: cs => wholeIn 16 cs
    | '0' :: _ => wholeIn 8 body
    | _ =>
      if body.isEmpty then throw .noNumber
      else if body.contains ':' then ofPlaces <$> (Text.splitOn ':' body).mapM (wholeIn 10)
      else wholeIn 10 body
  return if negative then -n else n

/-- A decimal fraction. -/
def fractionIn (text : List Char) : Except Fault Float :=
  match Decimal.float? (String.ofList text) with
  | some x => .ok x
  | none => .error (.fraction (String.ofList text))

/-- The sum of sexagesimal places, of which the last comes first, each times a power of sixty. -/
def sumOfPlaces (total : Float) (weight : Int) : List Float → Except Fault Float
  | [] => .ok total
  | x :: places =>
    match Decimal.ofInt? weight with
    | none => .error .overflow
    | some w => sumOfPlaces (total + x * w) (weight * 60) places

/-- A double. -/
def fractionValue (text : String) : Except Fault Value := do
  let cs := (Text.lower (String.ofList (text.toList.filter (· != '_')))).toList
  let (negative, body) ← signOf cs
  if body == ".nan".toList then return .undefined
  else
    let x ←
      if body == ".inf".toList then pure (Decimal.infinity false)
      else if body.contains ':' then do
        let places ← (Text.splitOn ':' body).mapM fractionIn
        sumOfPlaces 0 1 places.reverse
      else fractionIn body
    return .float (if negative then -x else x)

/-- A truth value; its words are known in any case. -/
def truthValue (text : String) : Except Fault Bool :=
  match truthWords.lookup (Text.lower text) with
  | some b => .ok b
  | none => .error .truth

/-- The number that a character stands for in base 64. -/
def sextet? (c : Char) : Option Nat :=
  if 'A' ≤ c && c ≤ 'Z' then some (c.toNat - 65)
  else if 'a' ≤ c && c ≤ 'z' then some (c.toNat - 71)
  else if c.isDigit then some (c.toNat + 4)
  else if c == '+' then some 62
  else if c == '/' then some 63
  else none

/-- Bytes in base 64: `held` is the number of characters of an unfinished group, `bits` what they
stand for, `pads` how many signs of padding came since. Other characters are skipped. -/
def bytesFrom (held bits pads : Nat) : List Char → Option (List UInt8)
  | [] => if held == 0 then some [] else none
  | c :: cs =>
    if c == '=' then
      if 2 ≤ held && 4 ≤ held + pads + 1 then some []
      else bytesFrom held bits (if 2 ≤ held then pads + 1 else pads) cs
    else
      match sextet? c with
      | none => bytesFrom held bits pads cs
      | some n =>
        let all := bits * 64 + n
        if held == 0 then bytesFrom 1 n 0 cs
        else
          let spare := Decimal.twoTo (6 - 2 * held)
          (bytesFrom ((held + 1) % 4) (all % spare) 0 cs).map (UInt8.ofNat (all / spare) :: ·)

/-- Bytes in base 64; all characters must be ASCII. -/
def bytesValue (text : String) : Except Fault (List UInt8) :=
  if text.toList.any fun c => 127 < c.toNat then .error .malformed
  else
    match bytesFrom 0 0 0 text.toList with
    | some content => .ok content
    | none => .error .malformed

/-- A year with a day more. -/
def isLeapYear (year : Nat) : Bool :=
  year % 4 == 0 && (year % 100 != 0 || year % 400 == 0)

/-- How many days a month has. -/
def daysIn (year month : Nat) : Nat :=
  if month == 2 then if isLeapYear year then 29 else 28
  else if month == 4 || month == 6 || month == 9 || month == 11 then 30
  else 31

/-- A day that exists. -/
def checkDay (year month day : Nat) : Except DateFault Unit := do
  if year == 0 then throw .year
  if month < 1 || 12 < month then throw .month
  if day < 1 || daysIn year month < day then throw .day

/-- A time of day that exists. -/
def checkTime (hour minute second : Nat) : Except DateFault Unit := do
  if 23 < hour then throw .hour
  if 59 < minute then throw .minute
  if 59 < second then throw .second

/-- An offset below a day. -/
def checkZone (d : DateParts) : Except DateFault Unit := do
  let minutes : Int := Decimal.ofDigits d.zoneHour * 60 + Decimal.ofDigits d.zoneMinute
  if 1440 ≤ minutes then throw (.offset (if d.zone == some '-' then -minutes else minutes))

/-- A date, or a moment, that exists. -/
def checkDate (d : DateParts) : Except DateFault Unit := do
  if !d.hour.isEmpty then checkZone d
  checkDay (Decimal.ofDigits d.year) (Decimal.ofDigits d.month) (Decimal.ofDigits d.day)
  if !d.hour.isEmpty then
    checkTime (Decimal.ofDigits d.hour) (Decimal.ofDigits d.minute) (Decimal.ofDigits d.second)

/-- A date or a moment. -/
def dateValue (text : String) : Except Fault Value :=
  match dateParts? (withoutLineEnd text.toList) with
  | none => .error .noDate
  | some d => (checkDate d).mapError .date |>.map fun _ => .date text

/-- The value of a scalar under one of YAML's own tags; `none` for the tags of collections and for
unknown ones. -/
def scalarValue? (kind text : String) : Option (Except Fault Value) :=
  match kind with
  | "null" => some (.ok .null)
  | "bool" => some ((truthValue text).map .bool)
  | "int" => some ((wholeValue text).map .int)
  | "float" => some (fractionValue text)
  | "binary" => some ((bytesValue text).map .bytes)
  | "timestamp" => some (dateValue text)
  | "str" => some (.ok (.text text))
  | _ => none

end Scaffold.Yaml
