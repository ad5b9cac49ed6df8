/-!
# Places in a text

Where a reader of a text stands: what is still to be read, how much was read, and the line and
column, both counted from zero. A byte order mark takes no column.
-/

namespace Scaffold.Yaml

/-- A character that ends a line. -/
def isBreak (c : Char) : Bool :=
  c == '\n' || c == '\r' || c == '\x85' || c == '\u2028' || c == '\u2029'

/-- A space, a tab or the end of a line. -/
def isGap (c : Char) : Bool :=
  c == ' ' || c == '\t' || isBreak c

/-- A letter, a digit, a hyphen or a low line, in ASCII. -/
def isNameChar (c : Char) : Bool :=
  c.isAlphanum || c == '-' || c == '_'

/-- A text from some point on, and how much lies before it. -/
structure Place where
  rest : List Char
  index : Nat := 0
  line : Nat := 0
  column : Nat := 0

namespace Place

/-- The next character. -/
def char? (p : Place) : Option Char := p.rest.head?

/-- The character so many places on. -/
def charAt? (p : Place) (n : Nat) : Option Char := (p.rest.drop n).head?

/-- The text ends here, or its next character is of a kind. -/
def endsOr (p : Place) (kind : Char → Bool) : Bool :=
  match p.rest with
  | [] => true
  | c :: _ => kind c

/-- The text ends so many places on, or the character there is of a kind. -/
def endsOrAt (p : Place) (n : Nat) (kind : Char → Bool) : Bool :=
  match p.rest.drop n with
  | [] => true
  | c :: _ => kind c

/-- The next character is of a kind. -/
def isAt (p : Place) (kind : Char → Bool) : Bool :=
  match p.rest with
  | [] => false
  | c :: _ => kind c

/-- The place behind the next character. -/
def next (p : Place) : Place :=
  match p.rest with
  | [] => p
  | c :: cs =>
    if isBreak c && !(c == '\r' && cs.head? == some '\n') then ⟨cs, p.index + 1, p.line + 1, 0⟩
    else ⟨cs, p.index + 1, p.line, if c == '\ufeff' then p.column else p.column + 1⟩

/-- The place so many characters on. -/
def skip : Nat → Place → Place
  | 0, p => p
  | n + 1, p => skip n p.next

/-- The characters of a kind that come next, and the place behind them. -/
def span (p : Place) (kind : Char → Bool) : List Char × Place :=
  let cs := p.rest.takeWhile kind
  (cs, p.skip cs.length)

/-- The place behind the characters of a kind that come next. -/
def skipWhile (p : Place) (kind : Char → Bool) : Place := (p.span kind).2

/-- The place behind the spaces that come next. -/
def skipSpaces (p : Place) : Place := p.skipWhile (· == ' ')

/-- The place at the end of the line. -/
def skipLine (p : Place) : Place := p.skipWhile fun c => !isBreak c

/-- The end of a line, if there is one here: what it counts as, and the place behind it. -/
def lineEnd? (p : Place) : Option (Char × Place) :=
  match p.rest with
  | '\r' :: '\n' :: _ => some ('\n', p.skip 2)
  | c :: _ =>
    if c == '\n' || c == '\r' || c == '\x85' then some ('\n', p.next)
    else if isBreak c then some (c, p.next)
    else none
  | [] => none

/-- Three characters stand here, with a gap or the end of the text behind them. -/
def isMark (p : Place) (mark : List Char) : Bool :=
  p.rest.take 3 == mark && p.endsOrAt 3 isGap

/-- A line that starts or ends a document begins here. -/
def isDocumentMark (p : Place) : Bool :=
  p.isMark ['-', '-', '-'] || p.isMark ['.', '.', '.']

/-- Behind spaces and a comment: the place behind the end of the line, which must come then. -/
def finishLine? (p : Place) : Option Place :=
  let p := p.skipSpaces
  let p := if p.isAt (· == '#') then p.skipLine else p
  match p.lineEnd? with
  | some (_, q) => some q
  | none => if p.rest.isEmpty then some p else none

end Place

end Scaffold.Yaml
