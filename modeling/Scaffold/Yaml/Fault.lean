import Scaffold.Text.Quoted

/-!
# Faults of YAML texts

Why a text has no value, by cause. Whatever breaks the rules of YAML itself is `malformed`; the
other causes are scalars whose tag promises a number, a date or a truth value that is not there.
-/

namespace Scaffold.Yaml

/-- Why a date or a time of day does not exist. -/
inductive DateFault
  | year
  | month
  | day
  | hour
  | minute
  | second
  /-- an offset of a day or more, in minutes -/
  | offset (minutes : Int)
deriving Repr, DecidableEq

/-- A span of minutes, as days and seconds of which only the days may be negative. -/
def spanText (minutes : Int) : String :=
  let days := minutes / 1440
  let seconds := minutes % 1440 * 60
  let parts :=
    (if days == 0 then [] else [s!"days={days}"]) ++
      (if seconds == 0 then [] else [s!"seconds={seconds}"])
  "datetime.timedelta(" ++ ", ".intercalate (if parts.isEmpty then ["0"] else parts) ++ ")"

/-- The wording of a date's fault; years begin with one. -/
def DateFault.message : DateFault → String
  | year => "year 0 is out of range"
  | month => "month must be in 1..12"
  | day => "day is out of range for month"
  | hour => "hour must be in 0..23"
  | minute => "minute must be in 0..59"
  | second => "second must be in 0..59"
  | offset minutes =>
    "offset must be a timedelta strictly between -timedelta(hours=24) and timedelta(hours=24), " ++
      s!"not {spanText minutes}."

/-- Why a text has no value. -/
inductive Fault
  | malformed
  /-- collections are nested too deeply -/
  | depth
  /-- an escape names no character -/
  | noCharacter
  /-- an escape names a number beyond 31 bits -/
  | beyondCharacters
  /-- not the digits of a whole number -/
  | wholeNumber (base : Nat) (text : String)
  /-- more digits than are ever read -/
  | tooManyDigits (count : Nat)
  /-- no decimal fraction -/
  | fraction (text : String)
  /-- a sexagesimal number with a place beyond all doubles -/
  | overflow
  | date (fault : DateFault)
  /-- neither true nor false -/
  | truth
  /-- a number without any text -/
  | noNumber
  /-- a text that does not read as a date -/
  | noDate
  /-- a collection that stands for a date -/
  | dateType
deriving Repr, DecidableEq

/-- The wording of a fault. -/
def Fault.message : Fault → String
  | malformed => "<yaml error>"
  | depth => "maximum recursion depth exceeded"
  | noCharacter => "chr() arg not in range(0x110000)"
  | beyondCharacters => "signed integer is greater than maximum"
  | wholeNumber base text =>
    s!"invalid literal for int() with base {base}: " ++
      String.ofList ((Text.quoted text).toList.take 200)
  | tooManyDigits count =>
    "Exceeds the limit (4300 digits) for integer string conversion: " ++
      s!"value has {count} digits; use sys.set_int_max_str_digits() to increase the limit"
  | fraction text => s!"could not convert string to float: {Text.quoted text}"
  | overflow => "int too large to convert to float"
  | date fault => fault.message
  | truth => "unknown truth value"
  | noNumber => "string index out of range"
  | noDate => "no match"
  | dateType => "expected string or bytes-like object, got 'list'"

end Scaffold.Yaml
