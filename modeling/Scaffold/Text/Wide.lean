import Scaffold.Text.Blank
import Scaffold.Text.Quoted

/-!
# Texts with halves of pairs

A text from outside may hold half a pair of code units alone, which is no character: it is a `Wide`
text. Where it has halves it has no bytes (`Wide.encode`). It is shown with U+FFFD for each of them
(`Wide.shown`).
-/

namespace Scaffold.Text

/-- A character, or half a pair of code units, counted from U+D800. -/
inductive CodePoint
  | char (c : Char)
  | half (n : Fin 2048)
deriving Repr, DecidableEq

namespace CodePoint

/-- It is half a pair. -/
def isHalf : CodePoint → Bool
  | char _ => false
  | half _ => true

/-- It is white space. -/
def isBlank : CodePoint → Bool
  | char c => Text.isBlank c
  | half _ => false

/-- The character that shows it. -/
def shown : CodePoint → Char
  | char c => c
  | half _ => '\ufffd'

end CodePoint

/-- A text that may hold halves of pairs. -/
abbrev Wide := List CodePoint

/-- The first halves of a text: the place of the first one, and how many stand right behind it. -/
structure Halves where
  place : Nat
  first : Fin 2048
  others : Nat
deriving Repr, DecidableEq

/-- What is said of a text that has no bytes for its halves. -/
def Halves.message (h : Halves) : String :=
  let which :=
    if h.others == 0 then
      let digits := String.ofList (hexDigits 4 (0xd800 + h.first.val))
      s!"character '\\u" ++ digits ++ s!"' in position {h.place}"
    else
      let last := h.place + h.others
      s!"characters in position {h.place}-{last}"
  "'utf-8' codec can't encode " ++ which ++ ": surrogates not allowed"

namespace Wide

/-- A string as such a text. -/
def ofString (s : String) : Wide := s.toList.map .char

/-- The text with U+FFFD for each half. -/
def shown (t : Wide) : String := String.ofList (t.map CodePoint.shown)

/-- The text without white space at either end. -/
def strip (t : Wide) : Wide :=
  ((t.dropWhile CodePoint.isBlank).reverse.dropWhile CodePoint.isBlank).reverse

/-- The first halves of a text with `place` code points in front of it. -/
def halvesFrom (place : Nat) : Wide → Option Halves
  | [] => none
  | .char _ :: t => halvesFrom (place + 1) t
  | .half n :: t => some ⟨place, n, (t.takeWhile CodePoint.isHalf).length⟩

/-- The first halves of a text, if there are any. -/
def halves? (t : Wide) : Option Halves := halvesFrom 0 t

/-- The bytes of a text, which must have no halves. -/
def encode (t : Wide) : Except Halves ByteArray :=
  match t.halves? with
  | none => .ok t.shown.toUTF8
  | some halves => .error halves

end Wide

end Scaffold.Text
