import Scaffold.Text.Split

/-!
# Glob patterns

A pattern is a list of items (`Glob.parse`): `*` stands for any text, separators included, `?` for
one character, and brackets for one character of a set. In a set, a hyphen between two characters
is a range, `!` in front negates, and a range whose ends are in the wrong order vanishes together
with its ends. A bracket that is never closed stands for itself.
-/

namespace Scaffold.Glob
open Scaffold.Text

/-- One part of a pattern. -/
inductive Item
  | star
  | any
  | char (c : Char)
  /-- one character inside the ranges, or outside all of them -/
  | set (negated : Bool) (ranges : List (Char × Char))
deriving Repr, DecidableEq

/-- An item that stands for one character stands for this one. -/
def Item.accepts (c : Char) : Item → Bool
  | star => false
  | any => true
  | char d => c == d
  | set negated ranges => negated != ranges.any fun (low, high) => low ≤ c && c ≤ high

/-- The text between brackets, after the opening one, and the rest. A closing bracket in front,
also after `!`, belongs to the set. -/
def bracketed? (cs : List Char) : Option (List Char × List Char) :=
  let front := if cs.head? == some '!' then ['!'] else []
  let rest := cs.drop front.length
  let front := if rest.head? == some ']' then front ++ [']'] else front
  match cut ']' (cs.drop front.length) with
  | (body, some rest) => some (front ++ body, rest)
  | (_, none) => none

/-- The pieces of a set between the hyphens that make ranges; the first `skip` characters hold no
such hyphen. -/
def chunksFrom (skip : Nat) : Nat → List Char → List (List Char)
  | 0, cs => [cs]
  | fuel + 1, cs =>
    match cut '-' (cs.drop skip) with
    | (front, some rest) => (cs.take skip ++ front) :: chunksFrom 2 fuel rest
    | (_, none) => [cs]

/-- Pieces without an empty one at the end, whose hyphen then stands for itself. -/
def closeLast : List (List Char) → List (List Char)
  | [] => []
  | [c, []] => [c ++ ['-']]
  | c :: cs => c :: closeLast cs

/-- Put a piece in front of others; a range in the wrong order between them vanishes. -/
def joinChunk (c : List Char) : List (List Char) → List (List Char)
  | [] => [c]
  | d :: ds =>
    match c.getLast?, d.head? with
    | some low, some high => if high < low then (c.dropLast ++ d.drop 1) :: ds else c :: d :: ds
    | _, _ => c :: d :: ds

/-- The characters of a set, with `none` for a hyphen that makes a range. -/
def setChars (body : List Char) : List (Option Char) :=
  let skip := if body.head? == some '!' then 2 else 1
  let chunks := (closeLast (chunksFrom skip body.length body)).foldr joinChunk []
  [none].intercalate (chunks.map (·.map some))

/-- The ranges of a set, a single character being a range of its own. -/
def rangesOf : List (Option Char) → List (Char × Char)
  | [] => []
  | some low :: none :: some high :: rest => (low, high) :: rangesOf rest
  | some c :: rest => (c, c) :: rangesOf rest
  | none :: rest => ('-', '-') :: rangesOf rest

/-- The set of a text between brackets. -/
def setOf (body : List Char) : Item :=
  match setChars body with
  | some '!' :: rest => .set true (rangesOf rest)
  | chars => .set false (rangesOf chars)

/-- The items of a pattern. -/
def itemsFrom : Nat → List Char → List Item
  | 0, _ => []
  | _, [] => []
  | fuel + 1, '*' :: cs => .star :: itemsFrom fuel (cs.dropWhile (· == '*'))
  | fuel + 1, '?' :: cs => .any :: itemsFrom fuel cs
  | fuel + 1, '[' :: cs =>
    match bracketed? cs with
    | some (body, rest) => setOf body :: itemsFrom fuel rest
    | none => .char '[' :: itemsFrom fuel cs
  | fuel + 1, c :: cs => .char c :: itemsFrom fuel cs

/-- The items of a pattern. -/
def parse (pattern : List Char) : List Item :=
  itemsFrom pattern.length pattern

/-- Some suffix of the text satisfies `p`. -/
def anySuffix (p : List Char → Bool) : List Char → Bool
  | [] => p []
  | c :: cs => p (c :: cs) || anySuffix p cs

/-- The items stand for the whole text. -/
def holds : List Item → List Char → Bool
  | [], cs => cs.isEmpty
  | [.star], _ => true
  | .star :: items, cs => anySuffix (holds items) cs
  | _ :: _, [] => false
  | item :: items, c :: cs => item.accepts c && holds items cs

/-- The pattern stands for the whole text. -/
def matchesText (pattern text : String) : Bool :=
  holds (parse pattern.toList) text.toList

/-- The pattern stands for a path, where `**/` in front also stands for no directory at all. -/
def matchesPath (pattern path : String) : Bool :=
  matchesText pattern path ||
    ("**/".toList.isPrefixOf pattern.toList &&
      matchesText (String.ofList (pattern.toList.drop 3)) path)

/-- Some pattern stands for the path, where `/**` at the end also stands for the directory. -/
def excludes (patterns : List String) (path : String) : Bool :=
  patterns.any fun pattern =>
    matchesPath pattern path ||
      ("/**".toList.isSuffixOf pattern.toList &&
        matchesPath (String.ofList (pattern.toList.take (pattern.length - 3))) path)

end Scaffold.Glob
