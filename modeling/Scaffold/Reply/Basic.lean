import Scaffold.Failure
import Scaffold.Text.Bytes

/-!
# Replies

What the text-generation side hands back: as a rule a text, which may have halves of pairs, but a
custom one may hand back bytes or nothing.
-/

namespace Scaffold

/-- A reply. -/
inductive Reply
  | text (s : String)
  /-- a text with halves of pairs -/
  | wide (t : Text.Wide)
  | bytes (b : ByteArray)
  | nothing

namespace Reply

/-- The reply that a text is. -/
def ofWide (t : Text.Wide) : Reply :=
  if t.halves?.isSome then wide t else text t.shown

/-- A reply as the content of a file: bytes are read as text, and nothing is the empty text. -/
def asText : Reply → Text.Wide
  | text s => .ofString s
  | wide t => t
  | bytes b => .ofString (Text.decodeLossy b)
  | nothing => []

/-- Bytes as displayed in a text. -/
def displayBytes (b : ByteArray) : String :=
  let bs := b.toList
  let quote := if bs.contains 0x27 && !bs.contains 0x22 then '"' else '\x27'
  String.ofList ('b' :: quote :: bs.flatMap (Text.escapeByte quote) ++ [quote])

/-- A reply as displayed in a text. -/
def display : Reply → String
  | text s => s
  | wide t => t.shown
  | bytes b => displayBytes b
  | nothing => "None"

end Reply

end Scaffold
