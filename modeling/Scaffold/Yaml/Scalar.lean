import Scaffold.Json.Reader
import Scaffold.Yaml.Fault
import Scaffold.Yaml.Place

/-!
# Scalars

The three ways to write a scalar: plain (`plain`), in quotes (`quoted`), and as a block of lines
(`block`). Each reader takes the place where the scalar starts and gives its text and the place
behind it.
-/

namespace Scaffold.Yaml

/-- Line ends within a scalar: one alone is a space, and of several the first says nothing. -/
def foldBreaks (first : Char) (more : List Char) : List Char :=
  if first != '\n' then first :: more
  else if more.isEmpty then [' ']
  else more

/-- A plain scalar ends before this text. -/
def endsPlain (inFlow : Bool) : List Char → Bool
  | [] => true
  | ':' :: rest =>
    match rest with
    | [] => true
    | c :: _ => isGap c || inFlow && ",[]\x7b\x7d".toList.contains c
  | c :: _ => isGap c || inFlow && ",?[]\x7b\x7d".toList.contains c

/-- How many characters of a plain scalar stand on this line without a gap. -/
def plainRun (inFlow : Bool) : List Char → Nat
  | [] => 0
  | c :: cs => if endsPlain inFlow (c :: cs) then 0 else plainRun inFlow cs + 1

/-- The line ends and spaces that come next, where a line that starts or ends a document stops the
search: the line ends, the place behind, and whether it was stopped. -/
def plainBreaks (breaks : List Char) (p : Place) : List Char × Place × Bool :=
  let q := p.skipSpaces
  match q.lineEnd? with
  | none => (breaks, q, false)
  | some (c, r) =>
    if r.isDocumentMark then (breaks ++ [c], r, true)
    else if _h : r.rest.length < p.rest.length then plainBreaks (breaks ++ [c]) r
    else (breaks ++ [c], r, true)
termination_by p.rest.length

/-- What stands between two parts of a plain scalar. -/
structure PlainGap where
  text : List Char
  place : Place
  /-- a line ended within the gap -/
  lineEnded : Bool

/-- The gap behind a part of a plain scalar; without text if the scalar must end. -/
def plainGap (p : Place) : PlainGap :=
  let (spaces, q) := p.span (· == ' ')
  match q.lineEnd? with
  | none => ⟨spaces, q, false⟩
  | some (c, r) =>
    if r.isDocumentMark then ⟨[], r, true⟩
    else
      let (breaks, s, stopped) := plainBreaks [] r
      if stopped then ⟨[], s, true⟩ else ⟨foldBreaks c breaks, s, true⟩

/-- A scalar that was read. -/
structure Read where
  text : List Char
  place : Place
  /-- the reader went on to the start of a line -/
  lineEnded : Bool := false

/-- Read a plain scalar on from a place, behind `before`. Its lines are indented by `indent`. -/
def plainFrom (inFlow : Bool) (indent : Int) (before : List Char) (lineEnded : Bool) (p : Place) :
    Read :=
  let run := if p.isAt (· == '#') then 0 else plainRun inFlow p.rest
  if run == 0 then ⟨[], p, lineEnded⟩
  else
    let text := before ++ p.rest.take run
    let gap := plainGap (p.skip run)
    if gap.text.isEmpty || gap.place.isAt (· == '#') ||
        !inFlow && Int.ofNat gap.place.column < indent then
      ⟨text, gap.place, gap.lineEnded⟩
    else if _h : gap.place.rest.length < p.rest.length then
      let more := plainFrom inFlow indent gap.text gap.lineEnded gap.place
      { more with text := text ++ more.text }
    else ⟨text, gap.place, gap.lineEnded⟩
termination_by p.rest.length

/-- Read a plain scalar. -/
def plain (inFlow : Bool) (indent : Int) (p : Place) : Read :=
  plainFrom inFlow indent [] false p

/-- The line ends in a quoted scalar behind the first one, and the place behind them and the gaps
between them. -/
def quotedBreaks (breaks : List Char) (p : Place) : Except Fault (List Char × Place) :=
  if p.isDocumentMark then .error .malformed
  else
    let q := p.skipWhile fun c => c == ' ' || c == '\t'
    match q.lineEnd? with
    | none => .ok (breaks, q)
    | some (c, r) =>
      if _h : r.rest.length < p.rest.length then quotedBreaks (breaks ++ [c]) r
      else .error .malformed
termination_by p.rest.length

/-- What an escape of one letter stands for. -/
def simpleEscape? : Char → Option Char
  | '0' => some '\x00'
  | 'a' => some '\x07'
  | 'b' => some '\x08'
  | 't' => some '\t'
  | '\t' => some '\t'
  | 'n' => some '\n'
  | 'v' => some '\x0b'
  | 'f' => some '\x0c'
  | 'r' => some '\r'
  | 'e' => some '\x1b'
  | ' ' => some ' '
  | '"' => some '"'
  | '\\' => some '\\'
  | '/' => some '/'
  | 'N' => some '\x85'
  | '_' => some '\xa0'
  | 'L' => some '\u2028'
  | 'P' => some '\u2029'
  | _ => none

/-- How many hexadecimal digits stand behind a letter of an escape. -/
def escapeWidth? : Char → Option Nat
  | 'x' => some 2
  | 'u' => some 4
  | 'U' => some 8
  | _ => none

/-- The number of so many hexadecimal digits. -/
def hexNumber? (width : Nat) (cs : List Char) : Option Nat :=
  let digits := (cs.take width).filterMap Json.hexValue?
  if digits.length == width then some (digits.foldl (fun n d => n * 16 + d) 0) else none

/-- The character of a number. Halves of a surrogate pair are none, and are left as U+FFFD. -/
def character (code : Nat) : Except Fault Char :=
  if h : code.isValidChar then .ok (Char.ofNatAux code h)
  else if code < 0x110000 then .ok '\ufffd'
  else if code < 2147483648 then .error .noCharacter
  else .error .beyondCharacters

/-- Read an escape, behind its backslash. -/
def escape (p : Place) : Except Fault (List Char × Place) :=
  match p.rest with
  | [] => .error .malformed
  | c :: cs =>
    match simpleEscape? c, escapeWidth? c with
    | some d, _ => .ok ([d], p.next)
    | none, some width =>
      match hexNumber? width cs with
      | none => .error .malformed
      | some code => (character code).map fun d => ([d], p.skip (width + 1))
    | none, none =>
      match p.lineEnd? with
      | some (_, q) => quotedBreaks [] q
      | none => .error .malformed

/-- Read the gap that stands here in a quoted scalar. -/
def quotedGap (p : Place) : Except Fault (List Char × Place) :=
  let (spaces, q) := p.span fun c => c == ' ' || c == '\t'
  match q.lineEnd? with
  | none => if q.rest.isEmpty then .error .malformed else .ok (spaces, q)
  | some (c, r) => do
    let (breaks, s) ← quotedBreaks [] r
    return (foldBreaks c breaks, s)

/-- Read one part of a quoted scalar: a gap, an escape or a character, or `none` at the closing
quote. -/
def quotedPart (quote : Char) (p : Place) : Except Fault (Option (List Char × Place)) :=
  match p.rest with
  | [] => .error .malformed
  | c :: cs =>
    if c == quote then
      if quote == '\'' && cs.head? == some '\'' then .ok (some (['\''], p.skip 2)) else .ok none
    else if c == '\\' && quote == '"' then (escape p.next).map some
    else if isGap c then (quotedGap p).map some
    else .ok (some ([c], p.next))

/-- Read a quoted scalar on to its closing quote, behind `before`, which is given backwards. -/
def quotedFrom (quote : Char) (before : List Char) (p : Place) : Except Fault Read :=
  match quotedPart quote p with
  | .error f => .error f
  | .ok none => .ok ⟨before.reverse, p.next, false⟩
  | .ok (some (part, q)) =>
    if _h : q.rest.length < p.rest.length then quotedFrom quote (part.reverse ++ before) q
    else .error .malformed
termination_by p.rest.length

/-- Read a quoted scalar, at its quote. -/
def quoted (quote : Char) (p : Place) : Except Fault Read :=
  quotedFrom quote [] p.next

/-- What happens to the line ends at the end of a block. -/
inductive Chomp
  | strip
  | clip
  | keep
deriving Repr, DecidableEq

/-- The mark that stands for a way to end a block. -/
def chomp? : Char → Option Chomp
  | '+' => some .keep
  | '-' => some .strip
  | _ => none

/-- The indentation that a digit asks for. -/
def increment? (c : Char) : Option Nat :=
  if c.isDigit then some (c.toNat - 48) else none

/-- The head of a block: how it ends, and its indentation if that is said. -/
def blockHead (p : Place) : Except Fault (Chomp × Option Nat × Place) :=
  let (chomp, increment, q) :=
    match p.char?.bind chomp?, p.char?.bind increment? with
    | some chomp, _ =>
      match p.next.char?.bind increment? with
      | some n => (chomp, some n, p.skip 2)
      | none => (chomp, none, p.next)
    | none, some n =>
      match p.next.char?.bind chomp? with
      | some chomp => (chomp, some n, p.skip 2)
      | none => (.clip, some n, p.next)
    | none, none => (.clip, none, p)
  if increment == some 0 || !q.endsOr (fun c => c == ' ' || isBreak c) then .error .malformed
  else
    match q.finishLine? with
    | some r => .ok (chomp, increment, r)
    | none => .error .malformed

/-- Behind at most so many columns of spaces. -/
def indented (indent : Nat) (p : Place) : Place :=
  p.skip (p.rest.take (indent - p.column) |>.takeWhile (· == ' ')).length

/-- The empty lines that come next, each indented by `indent` at most. -/
def emptyLines (indent : Nat) (breaks : List Char) (p : Place) : List Char × Place :=
  let q := indented indent p
  match q.lineEnd? with
  | none => (breaks, q)
  | some (c, r) =>
    if _h : r.rest.length < p.rest.length then emptyLines indent (breaks ++ [c]) r
    else (breaks ++ [c], r)
termination_by p.rest.length

/-- The empty lines before a block whose indentation is not said, and the widest line of spaces up
to its first text. -/
def leadingLines (breaks : List Char) (widest : Nat) (p : Place) : List Char × Nat × Place :=
  let q := p.skipSpaces
  let widest := if p.column < q.column then max widest q.column else widest
  match q.lineEnd? with
  | none => (breaks, widest, q)
  | some (c, r) =>
    if _h : r.rest.length < p.rest.length then leadingLines (breaks ++ [c]) widest r
    else (breaks ++ [c], widest, r)
termination_by p.rest.length

/-- A line of a block goes on here. -/
def isBlockLine (indent : Nat) (p : Place) : Bool :=
  p.column == indent && !p.rest.isEmpty

/-- What stands between two lines of a block. Where lines are folded, a single line end between
lines that start with text is a space. -/
def betweenLines (folded textual : Bool) (lineEnd : List Char) (breaks : List Char) : List Char :=
  if folded && lineEnd == ['\n'] && textual then if breaks.isEmpty then [' '] else breaks
  else lineEnd ++ breaks

/-- The end of a block. -/
def blockTail (chomp : Chomp) (lineEnd breaks : List Char) : List Char :=
  match chomp with
  | .strip => []
  | .clip => lineEnd
  | .keep => lineEnd ++ breaks

/-- The line starts with text, not with a gap. -/
def startsWithText (p : Place) : Bool :=
  p.endsOr fun c => c != ' ' && c != '\t'

/-- Read the lines of a block from a place at the start of one. -/
def blockLines (folded : Bool) (chomp : Chomp) (indent : Nat) (p : Place) : Read :=
  let (line, q) := p.span fun c => !isBreak c
  let (lineEnd, r) :=
    match q.lineEnd? with
    | some (c, r) => ([c], r)
    | none => ([], q)
  let (breaks, s) := emptyLines indent [] r
  if isBlockLine indent s then
    if _h : s.rest.length < p.rest.length then
      let more := blockLines folded chomp indent s
      let between := betweenLines folded (startsWithText p && startsWithText s) lineEnd breaks
      { more with text := line ++ between ++ more.text }
    else ⟨line, s, true⟩
  else ⟨line ++ blockTail chomp lineEnd breaks, s, true⟩
termination_by p.rest.length

/-- Read a block, at its indicator; `outer` is the indentation around it. -/
def block (folded : Bool) (outer : Int) (p : Place) : Except Fault Read := do
  let (chomp, increment, p) ← blockHead p.next
  let least := (max 1 (outer + 1)).toNat
  let (indent, breaks, q) :=
    match increment with
    | some n =>
      let indent := least + n - 1
      (indent, emptyLines indent [] p)
    | none =>
      let (breaks, widest, q) := leadingLines [] 0 p
      (max least widest, breaks, q)
  if isBlockLine indent q then
    let r := blockLines folded chomp indent q
    return { r with text := breaks ++ r.text }
  else return ⟨blockTail chomp [] breaks, q, true⟩

end Scaffold.Yaml
