import Scaffold.Json.Value

/-!
# Reading JSON

`Json.read` reads a whole text. Beyond the standard it takes `NaN`, `Infinity` and `-Infinity`, and
half a pair of code units alone; it refuses a whole number of more than `Decimal.digitLimit` digits
and values nested deeper than `depthLimit`. `Json.parse` gives what is read as a value, where the
last value of a repeated key counts.

* `Fault` - why a text is refused
* `Step` - a reader of the front of a text
* `value` - the reader of one value, by the depth that is left
-/

namespace Scaffold.Json

/-- Why a text is not read. -/
inductive Fault
  /-- the text is no value, which shows where so many of its characters are left -/
  | malformed (left : Nat)
  /-- a whole number is too long -/
  | digits (count : Nat)
  /-- an array or an object is nested too deeply -/
  | depth (array : Bool)
deriving Repr, DecidableEq

/-- A reading of the front of a text: what was read, and the rest. -/
abbrev Step (α : Type) := Except Fault (α × List Char)

/-- The deepest nesting that is read. -/
def depthLimit : Nat := 980

/-- White space between the parts of a value. -/
def isSpace (c : Char) : Bool :=
  c == ' ' || c == '\t' || c == '\n' || c == '\r'

/-- The text from its first character that is not white space. -/
def skip (cs : List Char) : List Char :=
  cs.dropWhile isSpace

/-- The value of a hexadecimal digit. -/
def hexValue? (c : Char) : Option Nat :=
  if '0' ≤ c && c ≤ '9' then some (c.toNat - 48)
  else if 'a' ≤ c && c ≤ 'f' then some (c.toNat - 87)
  else if 'A' ≤ c && c ≤ 'F' then some (c.toNat - 55)
  else none

/-- The value of four hexadecimal digits. -/
def hex4? (a b c d : Char) : Option Nat := do
  return (((← hexValue? a) * 16 + (← hexValue? b)) * 16 + (← hexValue? c)) * 16 + (← hexValue? d)

/-- The character of a one-letter escape. -/
def escaped? (c : Char) : Option Char :=
  match c with
  | '"' => some '"'
  | '\\' => some '\\'
  | '/' => some '/'
  | 'b' => some '\x08'
  | 'f' => some '\x0c'
  | 'n' => some '\n'
  | 'r' => some '\r'
  | 't' => some '\t'
  | _ => none

/-- The first half of a pair of code units. -/
def isHighHalf (n : Nat) : Bool := 0xd800 ≤ n && n ≤ 0xdbff

/-- The second half of a pair of code units. -/
def isLowHalf (n : Nat) : Bool := 0xdc00 ≤ n && n ≤ 0xdfff

/-- The character of a pair of code units. -/
def joinHalves (high low : Nat) : Char :=
  Char.ofNat (0x10000 + (high - 0xd800) * 1024 + (low - 0xdc00))

/-- What one code unit alone is. -/
def ofUnit (n : Nat) : Text.CodePoint :=
  if isHighHalf n || isLowHalf n then .half (Fin.ofNat 2048 (n - 0xd800)) else .char (Char.ofNat n)

/-- A code point in front of what is read. -/
def Step.cons (c : Text.CodePoint) (rest : Step Text.Wide) : Step Text.Wide :=
  rest.map fun (cs, rest) => (c :: cs, rest)

/-- The rest of a text value after its opening quote, in front of which `left` characters are left.
A text that does not end is at fault where it starts. -/
def stringBody (left : Nat) : List Char → Step Text.Wide
  | [] => .error (.malformed left)
  | '"' :: rest => .ok ([], rest)
  | '\\' :: 'u' :: a :: b :: c :: d :: '\\' :: 'u' :: e :: f :: g :: h :: rest =>
    match hex4? a b c d, hex4? e f g h with
    | none, _ => .error (.malformed (rest.length + 11))
    | some high, low =>
      let low := low.getD 0
      if isHighHalf high && isLowHalf low && !rest.isEmpty then
        Step.cons (.char (joinHalves high low)) (stringBody left rest)
      else Step.cons (ofUnit high) (stringBody left ('\\' :: 'u' :: e :: f :: g :: h :: rest))
  | '\\' :: 'u' :: a :: b :: c :: d :: rest =>
    match hex4? a b c d with
    | some n =>
      if rest.isEmpty then .error (.malformed 5) else Step.cons (ofUnit n) (stringBody left rest)
    | none => .error (.malformed (rest.length + 5))
  | '\\' :: 'u' :: rest => .error (.malformed (rest.length + 1))
  | '\\' :: c :: rest =>
    match escaped? c with
    | some e => Step.cons (.char e) (stringBody left rest)
    | none => .error (.malformed (rest.length + 2))
  | c :: rest =>
    if c == '\\' then .error (.malformed left)
    else if c.toNat < 0x20 then .error (.malformed (rest.length + 1))
    else Step.cons (.char c) (stringBody left rest)

/-- Digits at the front, at least one. -/
def digits1? (cs : List Char) : Option (List Char × List Char) :=
  let digits := cs.takeWhile Char.isDigit
  if digits.isEmpty then none else some (digits, cs.dropWhile Char.isDigit)

/-- The digits before the point: a single zero, or no zero in front. -/
def wholePart? : List Char → Option (List Char × List Char)
  | '0' :: rest => some (['0'], rest)
  | cs => digits1? cs

/-- The places after a point, if the point has any. -/
def placesPart : List Char → Option (List Char) × List Char
  | '.' :: cs =>
    match digits1? cs with
    | some (digits, rest) => (some digits, rest)
    | none => (none, '.' :: cs)
  | cs => (none, cs)

/-- The exponent, if there is a whole one. -/
def powerPart : List Char → Option Int × List Char
  | [] => (none, [])
  | c :: cs =>
    if c == 'e' || c == 'E' then
      let (negative, body) := Decimal.sign cs
      match digits1? body with
      | some (digits, rest) =>
        let n := Int.ofNat (Decimal.ofDigits digits)
        (some (if negative then -n else n), rest)
      | none => (none, c :: cs)
    else (none, c :: cs)

/-- A number: a double if it has a point or an exponent. -/
def number (cs : List Char) : Step Raw :=
  let negative := cs.head? == some '-'
  match wholePart? (if negative then cs.tail else cs) with
  | none => .error (.malformed cs.length)
  | some (whole, rest) =>
    let (places, rest) := placesPart rest
    let (power, rest) := powerPart rest
    match places, power with
    | none, none =>
      if Decimal.digitLimit < whole.length then .error (.digits whole.length)
      else
        let n := Int.ofNat (Decimal.ofDigits whole)
        .ok (.int (if negative then -n else n), rest)
    | _, _ =>
      let places := places.getD []
      let e := power.getD 0 - Int.ofNat places.length
      .ok (.float (Decimal.scaled negative (Decimal.ofDigits (whole ++ places)) e), rest)

/-- The text after a given beginning. -/
def after? (beginning : String) (cs : List Char) : Option (List Char) :=
  if beginning.toList.isPrefixOf cs then some (cs.drop beginning.length) else none

/-- The values that are written as a word. -/
def wordValues : List (String × Raw) :=
  [("null", .null), ("true", .bool true), ("false", .bool false),
    ("NaN", .float (Float.ofBits 0x7ff8000000000000)),
    ("Infinity", .float (Decimal.infinity false)),
    ("-Infinity", .float (Decimal.infinity true))]

/-- A value that is written as a word. -/
def word? (cs : List Char) : Option (Raw × List Char) :=
  wordValues.findSome? fun (w, v) => (after? w cs).map fun rest => (v, rest)

/-- The items of an array after its bracket and white space, at least one. -/
def items (item : List Char → Step Raw) :
    Nat → List Char → Except Fault (List Raw × List Char)
  | 0, cs => .error (.malformed cs.length)
  | fuel + 1, cs => do
    let (v, rest) ← item cs
    match skip rest with
    | ']' :: rest => return ([v], rest)
    | ',' :: rest =>
      let (vs, rest) ← items item fuel (skip rest)
      return (v :: vs, rest)
    | rest => throw (.malformed rest.length)

/-- One key with its value. -/
def member (item : List Char → Step Raw) (cs : List Char) :
    Except Fault ((Text.Wide × Raw) × List Char) :=
  match cs with
  | '"' :: body => do
    let (key, rest) ← stringBody cs.length body
    match skip rest with
    | ':' :: rest =>
      let (v, rest) ← item (skip rest)
      return ((key, v), rest)
    | rest => throw (.malformed rest.length)
  | cs => throw (.malformed cs.length)

/-- The fields of an object after its brace and white space, at least one. -/
def members (item : List Char → Step Raw) :
    Nat → List Char → Except Fault (List (Text.Wide × Raw) × List Char)
  | 0, cs => .error (.malformed cs.length)
  | fuel + 1, cs => do
    let (field, rest) ← member item cs
    match skip rest with
    | '\x7d' :: rest => return ([field], rest)
    | ',' :: rest =>
      let (fields, rest) ← members item fuel (skip rest)
      return (field :: fields, rest)
    | rest => throw (.malformed rest.length)

/-- An array after its bracket. -/
def arrayBody (item : List Char → Step Raw) (cs : List Char) : Step Raw :=
  match skip cs with
  | ']' :: rest => .ok (.array [], rest)
  | cs => (items item cs.length cs).map fun (vs, rest) => (.array vs, rest)

/-- An object after its brace. -/
def objectBody (item : List Char → Step Raw) (cs : List Char) : Step Raw :=
  match skip cs with
  | '\x7d' :: rest => .ok (.object [], rest)
  | cs => (members item cs.length cs).map fun (fields, rest) => (.object fields, rest)

/-- One value, where `item` reads the values inside it, if they may be nested at all. -/
def valueWith (item : Option (List Char → Step Raw)) (cs : List Char) : Step Raw :=
  match cs with
  | '"' :: body =>
    (stringBody cs.length body).map fun (t, rest) => (.text t, rest)
  | '[' :: rest =>
    match item with
    | some item => arrayBody item rest
    | none => .error (.depth true)
  | '\x7b' :: rest =>
    match item with
    | some item => objectBody item rest
    | none => .error (.depth false)
  | cs =>
    match word? cs with
    | some found => .ok found
    | none => number cs

/-- One value, nested at most so deeply. -/
def value : Nat → List Char → Step Raw
  | 0 => valueWith none
  | depth + 1 => valueWith (some (value depth))

/-- A text that is one value, with white space around it. -/
def readChars (cs : List Char) : Except Fault Raw := do
  let (v, rest) ← value depthLimit (skip cs)
  match skip rest with
  | [] => return v
  | rest => throw (.malformed rest.length)

/-- A string that is one value. -/
def read (s : String) : Except Fault Raw :=
  readChars s.toList

/-- The value that a text is. -/
def parseChars (cs : List Char) : Except Fault Json :=
  (readChars cs).map Raw.toJson

/-- The value that a string is. -/
def parse (s : String) : Except Fault Json :=
  parseChars s.toList

end Scaffold.Json
