import Scaffold.Failure
import Scaffold.Json.Printer
import Scaffold.Json.Reader

/-!
# Failures of reading and writing JSON

A malformed text is a failure of whoever reads it; numbers that are too long and values that are
nested too deeply fail alike everywhere. A number that is too long is not written either (`write`).
-/

namespace Scaffold.Json

/-- The failure of a number with too many digits. -/
def digitsFailure (count : Nat) : Failure :=
  .value (s!"Exceeds the limit ({Decimal.digitLimit} digits) for integer string conversion: " ++
    s!"value has {count} digits; use sys.set_int_max_str_digits() to increase the limit")

/-- The failure of a value that is nested too deeply. -/
def depthFailure (inArray : Bool) : Failure :=
  .depth ("maximum recursion depth exceeded while decoding a JSON " ++
    (if inArray then "array" else "object") ++ " from a unicode string")

/-- Why a text is not read, as a failure. -/
def Fault.failure (malformed : Failure) : Fault → Failure
  | .malformed _ => malformed
  | .digits count => digitsFailure count
  | .depth inArray => depthFailure inArray

/-- A value as text, if all its numbers can be written. -/
def write (layout : Layout) (v : Json) : Except Failure String :=
  if v.hasLong then .error .tooManyDigits else .ok (print layout v)

end Scaffold.Json
