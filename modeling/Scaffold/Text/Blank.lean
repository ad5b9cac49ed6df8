/-!
# White space

Which characters are white space (`isBlank`), trimming it from the ends of a text (`trim`), and
the words between it (`words`). Texts are lists of characters here; `strip` is `trim` on strings.
-/

namespace Scaffold.Text

/-- White space of every script, the separators U+001C to U+001F included. -/
def isBlank (c : Char) : Bool :=
  let n := c.toNat
  (9 ≤ n && n ≤ 13) || (28 ≤ n && n ≤ 32) || n == 0x85 || n == 0xa0 || n == 0x1680 ||
    (0x2000 ≤ n && n ≤ 0x200a) || n == 0x2028 || n == 0x2029 || n == 0x202f || n == 0x205f ||
    n == 0x3000

/-- The text from its first character that is not blank. -/
def trimLeft (cs : List Char) : List Char :=
  cs.dropWhile isBlank

/-- The text up to its last character that is not blank. -/
def trimRight (cs : List Char) : List Char :=
  (cs.reverse.dropWhile isBlank).reverse

/-- The text without white space at either end. -/
def trim (cs : List Char) : List Char :=
  trimRight (trimLeft cs)

/-- The string without white space at either end. -/
def strip (s : String) : String :=
  String.ofList (trim s.toList)

/-- Nothing but white space. -/
def isBlankText (s : String) : Bool :=
  s.toList.all isBlank

/-- Words seen so far, with `word` the letters of the current one in reverse. -/
def wordsFrom (word : List Char) : List Char → List (List Char)
  | [] => if word.isEmpty then [] else [word.reverse]
  | c :: cs =>
    if isBlank c then
      if word.isEmpty then wordsFrom [] cs else word.reverse :: wordsFrom [] cs
    else wordsFrom (c :: word) cs

/-- The maximal runs of characters that are not blank, in order. -/
def words (cs : List Char) : List (List Char) :=
  wordsFrom [] cs

@[simp] theorem trimLeft_nil : trimLeft [] = [] := rfl
@[simp] theorem trimRight_nil : trimRight [] = [] := rfl
@[simp] theorem trim_nil : trim [] = [] := rfl
@[simp] theorem toList_strip (s : String) : (strip s).toList = trim s.toList := by simp [strip]

end Scaffold.Text
