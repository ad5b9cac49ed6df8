import Scaffold.Json.Reader
import Scaffold.Yaml.Fault
import Scaffold.Yaml.Place
import Scaffold.Yaml.Token

/-!
# Names, tags and directives

The readers for what stands around the nodes of a text: the name of an anchor or an alias
(`anchorName`), a tag (`tag`), and a line that starts with a percent sign (`directive`).
-/

namespace Scaffold.Yaml

/-- A name of letters, digits, hyphens and low lines. -/
def name (p : Place) : Except Fault (String × Place) :=
  match p.span isNameChar with
  | ([], _) => .error .malformed
  | (cs, q) => .ok (String.ofList cs, q)

/-- The name of an anchor or an alias, behind its indicator. -/
def anchorName (p : Place) : Except Fault (String × Place) := do
  let (s, q) ← name p
  if q.endsOr fun c => isGap c || "?:,]\x7d%@\x60".toList.contains c then return (s, q)
  else throw .malformed

/-- A character that may stand in a tag. -/
def isTagChar (c : Char) : Bool :=
  isNameChar c || ";/?:@&=+$,.!~*'()[]%".toList.contains c

/-- The bytes that percent signs and two digits stand for. -/
def escapedBytes : List Char → Except Fault (List UInt8 × Nat)
  | '%' :: a :: b :: rest =>
    match Json.hexValue? a, Json.hexValue? b with
    | some x, some y => do
      let (bytes, count) ← escapedBytes rest
      return (UInt8.ofNat (x * 16 + y) :: bytes, count + 3)
    | _, _ => .error .malformed
  | '%' :: _ => .error .malformed
  | _ => .ok ([], 0)

/-- The characters of a tag that come next, behind `before`; there must be one. -/
def tagText (before : List Char) (p : Place) : Except Fault (String × Place) :=
  let (cs, q) := p.span fun c => isTagChar c && c != '%'
  let text := before ++ cs
  if q.isAt (· == '%') then
    match escapedBytes q.rest with
    | .error f => .error f
    | .ok (bytes, count) =>
      match String.fromUTF8? ⟨bytes.toArray⟩ with
      | none => .error .malformed
      | some s =>
        let r := q.skip count
        if _h : r.rest.length < p.rest.length then tagText (text ++ s.toList) r
        else .error .malformed
  else if text.isEmpty then .error .malformed
  else .ok (String.ofList text, q)
termination_by p.rest.length

/-- A handle: an exclamation mark, or a name between two. -/
def tagHandle (p : Place) : Except Fault (String × Place) :=
  if !p.isAt (· == '!') then .error .malformed
  else if p.next.isAt (· == ' ') then .ok ("!", p.next)
  else
    let (cs, q) := p.next.span isNameChar
    if q.isAt (· == '!') then .ok (s!"!{String.ofList cs}!", q.next) else .error .malformed

/-- A space, the end of a line or the end of the text stands here. -/
def endsWord (p : Place) : Bool :=
  p.endsOr fun c => c == ' ' || isBreak c

/-- A handle is written here: a second exclamation mark comes before the next gap. -/
def hasHandle (p : Place) : Bool :=
  (p.next.rest.takeWhile fun c => c != ' ' && !isBreak c).contains '!'

/-- A tag without its last character's check. -/
def openTag (p : Place) : Except Fault (WrittenTag × Place) := do
  if p.next.isAt (· == '<') then
    let (suffix, q) ← tagText [] (p.skip 2)
    if q.isAt (· == '>') then return (⟨none, suffix⟩, q.next) else throw .malformed
  else if p.next.endsOr isGap then return (⟨none, "!"⟩, p.next)
  else if hasHandle p then
    let (handle, q) ← tagHandle p
    let (suffix, r) ← tagText [] q
    return (⟨some handle, suffix⟩, r)
  else
    let (suffix, q) ← tagText [] p.next
    return (⟨some "!", suffix⟩, q)

/-- A tag, at its exclamation mark. -/
def tag (p : Place) : Except Fault (WrittenTag × Place) := do
  let (t, q) ← openTag p
  if endsWord q then return (t, q) else throw .malformed

/-- The digits of a version number. -/
def versionNumber (p : Place) : Except Fault (Nat × Place) :=
  let (cs, q) := p.span Char.isDigit
  if cs.isEmpty then .error .malformed
  else if 4300 < cs.length then .error (.tooManyDigits cs.length)
  else .ok (cs.foldl (fun n c => n * 10 + (c.toNat - 48)) 0, q)

/-- The two numbers of a version. -/
def versionPair (p : Place) : Except Fault (Directive × Place) := do
  let (major, q) ← versionNumber p.skipSpaces
  if !q.isAt (· == '.') then throw .malformed
  let (minor, r) ← versionNumber q.next
  if endsWord r then return (.version major minor, r) else throw .malformed

/-- A handle and what it stands for. -/
def tagPair (p : Place) : Except Fault (Directive × Place) := do
  let (handle, q) ← tagHandle p.skipSpaces
  if !q.isAt (· == ' ') then throw .malformed
  let (start, r) ← tagText [] q.skipSpaces
  if endsWord r then return (.tag handle start, r) else throw .malformed

/-- A directive, at its percent sign, to the end of its line. -/
def directive (p : Place) : Except Fault (Directive × Place) := do
  let (s, q) ← name p.next
  if !endsWord q then throw .malformed
  let (d, r) ←
    if s == "YAML" then versionPair q
    else if s == "TAG" then tagPair q
    else pure (Directive.other, q.skipLine)
  match r.finishLine? with
  | some r => return (d, r)
  | none => throw .malformed

end Scaffold.Yaml
