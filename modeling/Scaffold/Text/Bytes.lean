/-!
# Texts as bytes

Reading UTF-8 that may be damaged: `units` cuts bytes into characters and damaged runs, where a
run is the longest beginning of a character that the next byte breaks off. `decodeLossy` shows
each run as U+FFFD and `decodeSkipping` leaves them out.
-/

namespace Scaffold.Text

/-- How many bytes follow a first byte, the range of the second byte, and the first byte's bits. -/
def leadByte (b : Nat) : Option (Nat × Nat × Nat × Nat) :=
  if 0xc2 ≤ b && b ≤ 0xdf then some (1, 0x80, 0xbf, b - 0xc0)
  else if b == 0xe0 then some (2, 0xa0, 0xbf, 0)
  else if b == 0xed then some (2, 0x80, 0x9f, 0xd)
  else if 0xe1 ≤ b && b ≤ 0xef then some (2, 0x80, 0xbf, b - 0xe0)
  else if b == 0xf0 then some (3, 0x90, 0xbf, 0)
  else if 0xf1 ≤ b && b ≤ 0xf3 then some (3, 0x80, 0xbf, b - 0xf0)
  else if b == 0xf4 then some (3, 0x80, 0x8f, 4)
  else none

/-- Read on inside a character: `count` bytes are missing, the next between `low` and `high`. -/
def unitsInside (count low high bits : Nat) : List UInt8 → List (Option Char)
  | [] => [none]
  | b :: bs =>
    let n := b.toNat
    if low ≤ n && n ≤ high then
      if count ≤ 1 then some (Char.ofNat (bits * 64 + (n - 0x80))) :: unitsOutside bs
      else unitsInside (count - 1) 0x80 0xbf (bits * 64 + (n - 0x80)) bs
    else
      none ::
        (if n < 0x80 then some (Char.ofNat n) :: unitsOutside bs
        else
          match leadByte n with
          | some (more, low, high, bits) => unitsInside more low high bits bs
          | none => none :: unitsOutside bs)
where
  /-- Read on between two characters. -/
  unitsOutside : List UInt8 → List (Option Char)
  | [] => []
  | b :: bs =>
    let n := b.toNat
    if n < 0x80 then some (Char.ofNat n) :: unitsOutside bs
    else
      match leadByte n with
      | some (more, low, high, bits) => unitsInside more low high bits bs
      | none => none :: unitsOutside bs

/-- The characters of UTF-8 bytes, with `none` for each damaged run. -/
def units (bs : List UInt8) : List (Option Char) :=
  unitsInside.unitsOutside bs

/-- Text of bytes, damaged runs shown as U+FFFD. -/
def decodeLossy (bytes : ByteArray) : String :=
  String.ofList ((units bytes.toList).map fun u => u.getD '\ufffd')

/-- Text of bytes, damaged runs left out. -/
def decodeSkipping (bytes : ByteArray) : String :=
  String.ofList ((units bytes.toList).filterMap id)

end Scaffold.Text
