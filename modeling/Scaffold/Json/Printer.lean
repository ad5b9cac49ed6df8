import Scaffold.Json.Value

/-!
# Writing JSON

`Json.print` writes a value on one line or indented, with characters beyond ASCII as they are or
escaped. `Json.hasLong` tells of numbers with too many digits to be written.
-/

namespace Scaffold.Json

/-- How a value is laid out. -/
structure Layout where
  /-- blanks per level of nesting, or everything on one line -/
  indent : Option Nat
  /-- escape the characters that are not printable ASCII -/
  ascii : Bool

/-- One line of ASCII, as sent to a provider. -/
def Layout.wire : Layout := ⟨none, true⟩

/-- Two blanks a level, as stored in files. -/
def Layout.file : Layout := ⟨some 2, false⟩

/-- A code unit as an escape. -/
def unitEscape (n : Nat) : List Char :=
  '\\' :: 'u' :: Text.hexDigits 4 n

/-- A character as one or two code units. -/
def unitEscapes (c : Char) : List Char :=
  let n := c.toNat
  if n < 0x10000 then unitEscape n
  else
    unitEscape (0xd800 + (n - 0x10000) / 1024) ++ unitEscape (0xdc00 + (n - 0x10000) % 1024)

/-- A character inside a text value. -/
def escapeChar (ascii : Bool) (c : Char) : List Char :=
  match c with
  | '"' => ['\\', '"']
  | '\\' => ['\\', '\\']
  | '\n' => ['\\', 'n']
  | '\r' => ['\\', 'r']
  | '\t' => ['\\', 't']
  | '\x08' => ['\\', 'b']
  | '\x0c' => ['\\', 'f']
  | c =>
    if c.toNat < 0x20 || (ascii && 0x7f ≤ c.toNat) then unitEscapes c else [c]

/-- A text value. -/
def printText (ascii : Bool) (s : String) : List Char :=
  '"' :: s.toList.flatMap (escapeChar ascii) ++ ['"']

/-- How doubles are written. -/
def doubleStyle : Decimal.Style := ⟨-4, 16, 2, "Infinity", "NaN"⟩

/-- The line end and blanks before an item at a level of nesting. -/
def Layout.lineAt (layout : Layout) (level : Nat) : List Char :=
  match layout.indent with
  | none => []
  | some width => '\n' :: List.replicate (width * level) ' '

/-- What stands between two items. -/
def Layout.comma (layout : Layout) (level : Nat) : List Char :=
  match layout.indent with
  | none => [',', ' ']
  | some _ => ',' :: layout.lineAt level

mutual

/-- A value at a level of nesting. -/
def printAt (layout : Layout) (level : Nat) : Json → List Char
  | null => "null".toList
  | bool true => "true".toList
  | bool false => "false".toList
  | int n => (Decimal.digitsOf n).toList
  | float x => (Decimal.render doubleStyle x).toList
  | text s => printText layout.ascii s
  | array [] => ['[', ']']
  | array (v :: vs) =>
    '[' :: layout.lineAt (level + 1) ++ printAt layout (level + 1) v ++
      printItems layout (level + 1) vs ++ layout.lineAt level ++ [']']
  | object [] => ['\x7b', '\x7d']
  | object ((k, v) :: fields) =>
    '\x7b' :: layout.lineAt (level + 1) ++ printText layout.ascii k ++ [':', ' '] ++
      printAt layout (level + 1) v ++ printFields layout (level + 1) fields ++
      layout.lineAt level ++ ['\x7d']

/-- The items after the first one. -/
def printItems (layout : Layout) (level : Nat) : List Json → List Char
  | [] => []
  | v :: vs => layout.comma level ++ printAt layout level v ++ printItems layout level vs

/-- The fields after the first one. -/
def printFields (layout : Layout) (level : Nat) : List (String × Json) → List Char
  | [] => []
  | (k, v) :: fields =>
    layout.comma level ++ printText layout.ascii k ++ [':', ' '] ++ printAt layout level v ++
      printFields layout level fields

end

mutual

/-- Some whole number in a value has too many digits to be written. -/
def hasLong : Json → Bool
  | int n => Decimal.tooLongToWrite n
  | array items => anyLong items
  | object fields => anyLongField fields
  | _ => false

/-- Some whole number among items has too many digits. -/
def anyLong : List Json → Bool
  | [] => false
  | v :: vs => hasLong v || anyLong vs

/-- Some whole number among fields has too many digits. -/
def anyLongField : List (String × Json) → Bool
  | [] => false
  | (_, v) :: fields => hasLong v || anyLongField fields

end

/-- A value as text. -/
def print (layout : Layout) (v : Json) : String :=
  String.ofList (printAt layout 0 v)

end Scaffold.Json
