import Scaffold.Yaml.Node

/-!
# What plain scalars mean

A plain scalar without a tag is a truth value, a number, null, a date or a text, by the way it is
written (`plainTag`).
-/

namespace Scaffold.Yaml

/-- Digits and low lines. -/
def isGroupedDigit (c : Char) : Bool := c.isDigit || c == '_'

/-- The text without a sign. -/
def unsigned : List Char → List Char
  | '+' :: cs => cs
  | '-' :: cs => cs
  | cs => cs

/-- A digit, then digits and low lines. -/
def isGrouped : List Char → Bool
  | [] => false
  | c :: cs => c.isDigit && cs.all isGroupedDigit

/-- Nothing, or `e`, a sign and digits. -/
def isExponent : List Char → Bool
  | [] => true
  | c :: s :: cs =>
    (c == 'e' || c == 'E') && (s == '+' || s == '-') && !cs.isEmpty && cs.all Char.isDigit
  | _ => false

/-- Colons with a number below sixty behind each; at least one. -/
def isSexagesimal : List Char → Bool
  | ':' :: a :: b :: rest =>
    if b.isDigit then '0' ≤ a && a ≤ '5' && (rest.isEmpty || isSexagesimal rest)
    else a.isDigit && isSexagesimal (b :: rest)
  | [':', a] => a.isDigit
  | _ => false

/-- A decimal fraction: digits and a point, or a point and digits, with an exponent that has a sign;
or sexagesimal places with a point at the end. -/
def looksFractional (cs : List Char) : Bool :=
  let body := unsigned cs
  let whole := body.takeWhile isGroupedDigit
  match cs, body.drop whole.length with
  | '.' :: _, '.' :: rest =>
    match rest with
    | [] => false
    | c :: _ => c.isDigit && isExponent (rest.dropWhile isGroupedDigit)
  | _, '.' :: rest => isGrouped whole && isExponent (rest.dropWhile isGroupedDigit)
  | _, ':' :: rest =>
    let places := (':' :: rest).takeWhile (· != '.')
    isGrouped whole && isSexagesimal places &&
      match (':' :: rest).dropWhile (· != '.') with
      | [] => false
      | _ :: rest => rest.all isGroupedDigit
  | _, _ => false

/-- An infinity or not-a-number. -/
def looksUnbounded (cs : List Char) : Bool :=
  ([".inf", ".Inf", ".INF"].map String.toList).contains (unsigned cs) ||
    ([".nan", ".NaN", ".NAN"].map String.toList).contains cs

/-- A whole number: binary, octal, decimal, hexadecimal or sexagesimal. -/
def looksWhole (cs : List Char) : Bool :=
  match unsigned cs with
  | '0' :: 'b' :: rest => !rest.isEmpty && rest.all fun c => c == '0' || c == '1' || c == '_'
  | '0' :: 'x' :: rest =>
    !rest.isEmpty && rest.all fun c =>
      isGroupedDigit c || 'a' ≤ c && c ≤ 'f' || 'A' ≤ c && c ≤ 'F'
  | '0' :: rest => rest.all fun c => '0' ≤ c && c ≤ '7' || c == '_'
  | c :: rest =>
    let places := rest.dropWhile isGroupedDigit
    c.isDigit && (places.isEmpty || isSexagesimal places)
  | [] => false

/-- The parts of a date: each as it is written, and empty where it is missing. -/
structure DateParts where
  year : List Char
  month : List Char
  day : List Char
  hour : List Char := []
  minute : List Char := []
  second : List Char := []
  /-- the sign of the offset, `Z` for none, if an offset is written -/
  zone : Option Char := none
  zoneHour : List Char := []
  zoneMinute : List Char := []

/-- One or two digits. -/
def shortNumber? : List Char → Option (List Char × List Char)
  | a :: b :: rest =>
    if a.isDigit then if b.isDigit then some ([a, b], rest) else some ([a], b :: rest) else none
  | [a] => if a.isDigit then some ([a], []) else none
  | [] => none

/-- So many digits. -/
def digits? (count : Nat) (cs : List Char) : Option (List Char × List Char) :=
  let ds := cs.take count
  if ds.length == count && ds.all Char.isDigit then some (ds, cs.drop count) else none

/-- The text behind a character. -/
def behind? (c : Char) : List Char → Option (List Char)
  | d :: cs => if c == d then some cs else none
  | [] => none

/-- Spaces and tabs. -/
def isSpacing (c : Char) : Bool := c == ' ' || c == '\t'

/-- The offset at the end of a date: nothing, `Z`, or a sign, hours and perhaps minutes. -/
def zoneParts? (d : DateParts) (cs : List Char) : Option DateParts :=
  match cs, cs.dropWhile isSpacing with
  | [], _ => some d
  | _, ['Z'] => some { d with zone := some 'Z' }
  | _, sign :: rest =>
    if sign == '+' || sign == '-' then do
      let (hour, rest) ← shortNumber? rest
      let d := { d with zone := some sign, zoneHour := hour }
      if rest.isEmpty then return d
      else
        let (minute, rest) ← digits? 2 (← behind? ':' rest)
        if rest.isEmpty then return { d with zoneMinute := minute } else none
    else none
  | _, [] => none

/-- The time of day behind a date: a `T` or a gap, hours, minutes, seconds, maybe a fraction. -/
def timeParts? (d : DateParts) (cs : List Char) : Option DateParts := do
  let rest ←
    match cs with
    | 'T' :: rest | 't' :: rest => some rest
    | c :: _ => if isSpacing c then some (cs.dropWhile isSpacing) else none
    | [] => none
  let (hour, rest) ← shortNumber? rest
  let (minute, rest) ← digits? 2 (← behind? ':' rest)
  let (second, rest) ← digits? 2 (← behind? ':' rest)
  let rest :=
    match rest with
    | '.' :: rest => rest.dropWhile Char.isDigit
    | rest => rest
  zoneParts? { d with hour := hour, minute := minute, second := second } rest

/-- The parts of a date or a moment. -/
def dateParts? (cs : List Char) : Option DateParts := do
  let (year, rest) ← digits? 4 cs
  let (month, rest) ← shortNumber? (← behind? '-' rest)
  let (day, rest) ← shortNumber? (← behind? '-' rest)
  let d : DateParts := { year := year, month := month, day := day }
  if rest.isEmpty then return d else timeParts? d rest

/-- A date as a plain scalar may be written: without a time of day, month and day have two digits.
-/
def looksDated (cs : List Char) : Bool :=
  match dateParts? cs with
  | none => false
  | some d => !d.hour.isEmpty || d.month.length == 2 && d.day.length == 2

/-- The words for truth values. -/
def truthWords : List (String × Bool) :=
  [("yes", true), ("no", false), ("true", true), ("false", false), ("on", true), ("off", false)]

/-- A word in small letters, in capitals, or with one capital at its start. -/
def spellings (word : String) : List String :=
  [word, String.ofList (word.toList.map Char.toUpper),
    match word.toList with
    | [] => ""
    | c :: cs => String.ofList (c.toUpper :: cs)]

/-- A line end at the end of a text is overlooked. -/
def withoutLineEnd (cs : List Char) : List Char :=
  if cs.getLast? == some '\n' then cs.dropLast else cs

/-- The kind of a plain scalar. The rules that start at the first character see that of the whole
text, the others overlook a line end. -/
def plainKind (text : String) : String :=
  let cs := withoutLineEnd text.toList
  let s := String.ofList cs
  if text.isEmpty then "null"
  else if (truthWords.flatMap fun (w, _) => spellings w).contains s then "bool"
  else if looksFractional cs || looksUnbounded cs then "float"
  else if looksWhole cs then "int"
  else if s == "<<" then "merge"
  else if s == "~" || (spellings "null").contains s then "null"
  else if looksDated cs then "timestamp"
  else if s == "=" then "value"
  else if s == "!" || s == "&" || s == "*" then "yaml"
  else "str"

/-- The tag of a plain scalar. -/
def plainTag (text : String) : String := ownTag (plainKind text)

end Scaffold.Yaml
