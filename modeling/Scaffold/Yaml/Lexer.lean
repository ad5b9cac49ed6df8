import Scaffold.Yaml.Property
import Scaffold.Yaml.Scalar

/-!
# From characters to tokens

A block is shown by its indentation: a wider one opens it and a narrower one closes it. A mapping's
key is only known as such at the colon behind it, so what may be a key is remembered as a
`Candidate` and its tokens are put in later. `tokens` gives the tokens of a text and, if the text
breaks off, the fault; a token is only given out when no candidate before it is open.
-/

namespace Scaffold.Yaml

/-- Something that is a key if a colon follows it on its line. -/
structure Candidate where
  /-- the number of its first token -/
  token : Nat
  /-- nothing else than a key can stand here -/
  required : Bool
  index : Nat
  line : Nat
  column : Nat

/-- How far the text was read, the open blocks, and the tokens so far, backwards. -/
structure Lexer where
  place : Place
  flowDepth : Nat := 0
  indent : Int := -1
  /-- the indentations around this one, from the inside -/
  outer : List Int := []
  keyAllowed : Bool := true
  /-- the open candidates, with the depth of brackets at each -/
  candidates : List (Nat × Candidate) := []
  tokens : List Token := []
  count : Nat := 0
  finished : Bool := false

namespace Lexer

/-- Between brackets. -/
def inFlow (s : Lexer) : Bool := s.flowDepth != 0

/-- Add a token at the end. -/
def push (s : Lexer) (t : Token) : Lexer :=
  { s with tokens := t :: s.tokens, count := s.count + 1 }

/-- Put a token before the token of a number. -/
def insertAt (s : Lexer) (number : Nat) (t : Token) : Lexer :=
  let after := s.count - number
  { s with tokens := s.tokens.take after ++ t :: s.tokens.drop after, count := s.count + 1 }

/-- Go on to a place. -/
def goTo (s : Lexer) (p : Place) : Lexer := { s with place := p }

/-- A candidate is given up once its line is over or it is too long. -/
def isStale (s : Lexer) (c : Candidate) : Bool :=
  c.line != s.place.line || c.index + 1024 < s.place.index

/-- Give up stale candidates; one that was required is a fault. -/
def dropStale (s : Lexer) : Except Fault Lexer :=
  if s.candidates.any fun (_, c) => s.isStale c && c.required then .error .malformed
  else .ok { s with candidates := s.candidates.filter fun (_, c) => !s.isStale c }

/-- Give up the candidate at this depth; if it was required that is a fault. -/
def dropCandidate (s : Lexer) : Except Fault Lexer :=
  match s.candidates.lookup s.flowDepth with
  | none => .ok s
  | some c =>
    if c.required then .error .malformed
    else .ok { s with candidates := s.candidates.filter fun (depth, _) => depth != s.flowDepth }

/-- What comes next may be a key. -/
def addCandidate (s : Lexer) : Except Fault Lexer :=
  if !s.keyAllowed then .ok s
  else do
    let p := s.place
    let required := !s.inFlow && s.indent == Int.ofNat p.column
    let s ← s.dropCandidate
    return { s with
      candidates := (s.flowDepth, ⟨s.count, required, p.index, p.line, p.column⟩) :: s.candidates }

/-- Close the blocks that are indented further than a column. -/
def closeBlocksOf (column : Int) (indent : Int) : List Int → Int × List Int × Nat
  | [] => (indent, [], 0)
  | i :: outer =>
    if column < indent then
      let (indent, outer, closed) := closeBlocksOf column i outer
      (indent, outer, closed + 1)
    else (indent, i :: outer, 0)

/-- Close the blocks that are indented further than a column; between brackets there are none. -/
def closeBlocks (s : Lexer) (column : Int) : Lexer :=
  if s.inFlow then s
  else
    let (indent, outer, closed) := closeBlocksOf column s.indent s.outer
    { s with
      indent := indent
      outer := outer
      tokens := List.replicate closed .blockEnd ++ s.tokens
      count := s.count + closed }

/-- Open a block at a column if it is indented further than the one around. -/
def openBlock (s : Lexer) (column : Nat) : Option Lexer :=
  if s.indent < Int.ofNat column then
    some { s with indent := Int.ofNat column, outer := s.indent :: s.outer }
  else none

/-- Open a block here, if it is indented further than the one around, with a token for it. -/
def openBlockHere (s : Lexer) (t : Token) : Lexer :=
  match s.openBlock s.place.column with
  | some s => s.push t
  | none => s

/-- Skip spaces, comments and the ends of lines; outside brackets a new line may start a key. -/
def skipGapFrom (inFlow : Bool) (keyAllowed : Bool) (p : Place) : Place × Bool :=
  let q := p.skipSpaces
  let q := if q.isAt (· == '#') then q.skipLine else q
  match q.lineEnd? with
  | none => (q, keyAllowed)
  | some (_, r) =>
    if _h : r.rest.length < p.rest.length then skipGapFrom inFlow (keyAllowed || !inFlow) r
    else (r, keyAllowed)
termination_by p.rest.length

/-- Skip what stands before the next token. -/
def skipGap (s : Lexer) : Lexer :=
  let p := if s.place.index == 0 && s.place.isAt (· == '\ufeff') then s.place.next else s.place
  let (q, keyAllowed) := skipGapFrom s.inFlow s.keyAllowed p
  { s with place := q, keyAllowed := keyAllowed }

/-- The end of the text. -/
def atEnd (s : Lexer) : Except Fault Lexer := do
  let s ← (s.closeBlocks (-1)).dropCandidate
  return { s.push .streamEnd with keyAllowed := false, candidates := [], finished := true }

/-- A directive. -/
def atDirective (s : Lexer) : Except Fault Lexer := do
  let s ← (s.closeBlocks (-1)).dropCandidate
  let (d, p) ← directive s.place
  return { (s.push (.directive d)).goTo p with keyAllowed := false }

/-- The three characters that start or end a document. -/
def atDocumentMark (s : Lexer) (t : Token) : Except Fault Lexer := do
  let s ← (s.closeBlocks (-1)).dropCandidate
  return { (s.push t).goTo (s.place.skip 3) with keyAllowed := false }

/-- A bracket that opens. -/
def atOpening (s : Lexer) (t : Token) : Except Fault Lexer := do
  let s ← s.addCandidate
  return { (s.push t).goTo s.place.next with flowDepth := s.flowDepth + 1, keyAllowed := true }

/-- A bracket that closes; one that was never opened is a fault. -/
def atClosing (s : Lexer) (t : Token) : Except Fault Lexer := do
  let s ← s.dropCandidate
  if !s.inFlow then throw .malformed
  return { (s.push t).goTo s.place.next with flowDepth := s.flowDepth - 1, keyAllowed := false }

/-- A comma. -/
def atComma (s : Lexer) : Except Fault Lexer := do
  let s ← s.dropCandidate
  return { (s.push .flowEntry).goTo s.place.next with keyAllowed := true }

/-- A hyphen before an item. -/
def atHyphen (s : Lexer) : Except Fault Lexer := do
  if !s.inFlow && !s.keyAllowed then throw .malformed
  let s := if s.inFlow then s else s.openBlockHere .blockSequenceStart
  let s ← s.dropCandidate
  return { (s.push .blockEntry).goTo s.place.next with keyAllowed := true }

/-- A question mark before a key. -/
def atQuestion (s : Lexer) : Except Fault Lexer := do
  if !s.inFlow && !s.keyAllowed then throw .malformed
  let s := if s.inFlow then s else s.openBlockHere .blockMappingStart
  let s ← s.dropCandidate
  return { (s.push .key).goTo s.place.next with keyAllowed := !s.inFlow }

/-- A candidate turns out to be a key, which may start a block. -/
def confirm (s : Lexer) (c : Candidate) : Lexer :=
  let s := { s with candidates := s.candidates.filter fun (depth, _) => depth != s.flowDepth }
  let s := s.insertAt c.token .key
  let s :=
    if s.inFlow then s
    else
      match s.openBlock c.column with
      | some s => s.insertAt c.token .blockMappingStart
      | none => s
  { s with keyAllowed := false }

/-- A colon before a value. -/
def atColon (s : Lexer) : Except Fault Lexer := do
  let s ←
    match s.candidates.lookup s.flowDepth with
    | some c => pure (s.confirm c)
    | none =>
      if !s.inFlow && !s.keyAllowed then throw .malformed
      else
        let s := if s.inFlow then s else s.openBlockHere .blockMappingStart
        pure { s with keyAllowed := !s.inFlow }
  return (s.push .value).goTo s.place.next

/-- A name behind an indicator. -/
def atName (s : Lexer) (t : String → Token) : Except Fault Lexer := do
  let s ← s.addCandidate
  let (n, p) ← anchorName s.place.next
  return { (s.push (t n)).goTo p with keyAllowed := false }

/-- A tag. -/
def atTag (s : Lexer) : Except Fault Lexer := do
  let s ← s.addCandidate
  let (t, p) ← tag s.place
  return { (s.push (.tag t)).goTo p with keyAllowed := false }

/-- A block scalar. -/
def atBlock (s : Lexer) (folded : Bool) : Except Fault Lexer := do
  let s ← s.dropCandidate
  let r ← block folded s.indent s.place
  return { (s.push (.scalar (String.ofList r.text) false)).goTo r.place with keyAllowed := true }

/-- A scalar in quotes. -/
def atQuote (s : Lexer) (quote : Char) : Except Fault Lexer := do
  let s ← s.addCandidate
  let r ← quoted quote s.place
  return { (s.push (.scalar (String.ofList r.text) false)).goTo r.place with keyAllowed := false }

/-- A plain scalar. -/
def atPlain (s : Lexer) : Except Fault Lexer := do
  let s ← s.addCandidate
  let r := plain s.inFlow (s.indent + 1) s.place
  return { (s.push (.scalar (String.ofList r.text) true)).goTo r.place with
    keyAllowed := r.lineEnded }

/-- A plain scalar may start here. -/
def startsPlain (s : Lexer) (c : Char) : Bool :=
  !(isGap c || "-?:,[]\x7b\x7d#&*!|>'\"%@\x60".toList.contains c) ||
    !s.place.endsOrAt 1 isGap && (c == '-' || !s.inFlow && (c == '?' || c == ':'))

/-- Read the next token, of which the first character is given. -/
def readToken (s : Lexer) (c : Char) : Except Fault Lexer :=
  let p := s.place
  let alone := s.inFlow || p.endsOrAt 1 isGap
  if c == '%' && p.column == 0 then s.atDirective
  else if p.column == 0 && p.isMark ['-', '-', '-'] then s.atDocumentMark .documentStart
  else if p.column == 0 && p.isMark ['.', '.', '.'] then s.atDocumentMark .documentEnd
  else if c == '[' then s.atOpening .flowSequenceStart
  else if c == '\x7b' then s.atOpening .flowMappingStart
  else if c == ']' then s.atClosing .flowSequenceEnd
  else if c == '\x7d' then s.atClosing .flowMappingEnd
  else if c == ',' then s.atComma
  else if c == '-' && p.endsOrAt 1 isGap then s.atHyphen
  else if c == '?' && alone then s.atQuestion
  else if c == ':' && alone then s.atColon
  else if c == '*' then s.atName .alias
  else if c == '&' then s.atName .anchor
  else if c == '!' then s.atTag
  else if c == '|' && !s.inFlow then s.atBlock false
  else if c == '>' && !s.inFlow then s.atBlock true
  else if c == '\'' || c == '"' then s.atQuote c
  else if s.startsPlain c then s.atPlain
  else .error .malformed

/-- Read on by one token, and by those that the indentation asks for before it. -/
def step (s : Lexer) : Except Fault Lexer := do
  let s ← s.skipGap.dropStale
  let s := s.closeBlocks (Int.ofNat s.place.column)
  match s.place.rest with
  | [] => s.atEnd
  | c :: _ => s.readToken c

/-- The tokens that no open candidate holds back. -/
def settled (s : Lexer) : List Token :=
  let held := s.candidates.foldl (fun n (_, c) => min n c.token) s.count
  s.tokens.reverse.take held

/-- Read to the end: the tokens, and the fault where the text breaks off. -/
def run (s : Lexer) : List Token × Option Fault :=
  match s.dropStale with
  | .error f => (s.settled, some f)
  | .ok fresh =>
    match fresh.step with
    | .error f => (fresh.settled, some f)
    | .ok t =>
      if t.finished then (t.tokens.reverse, none)
      else if _h : t.place.rest.length < s.place.rest.length then run t
      else (t.settled, some .malformed)
termination_by s.place.rest.length

end Lexer

/-- A character that may stand in a text. -/
def isPrintable (c : Char) : Bool :=
  let n := c.toNat
  n == 9 || n == 10 || n == 13 || 0x20 ≤ n && n ≤ 0x7e || n == 0x85 ||
    0xa0 ≤ n && n ≤ 0xfffd || 0x10000 ≤ n

/-- The tokens of a text, and the fault where it breaks off. -/
def tokens (text : String) : List Token × Option Fault :=
  if text.toList.all isPrintable then Lexer.run { place := { rest := text.toList } }
  else ([], some .malformed)

end Scaffold.Yaml
