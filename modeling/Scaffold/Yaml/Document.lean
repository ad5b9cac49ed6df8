import Scaffold.Yaml.Lexer
import Scaffold.Yaml.Plain

/-!
# From tokens to a document

The grammar of YAML over tokens: blocks, flow collections and scalars, each with an anchor and a
tag (`node`), and a text that holds one document at most (`document`).
-/

namespace Scaffold.Yaml

/-- What is still to be read, and what was named so far. -/
structure Reader where
  tokens : List Token
  /-- the fault where the tokens break off -/
  fault : Fault
  handles : List (String × String)
  /-- names of anchors that were met -/
  named : List String := []
  /-- anchored nodes that are complete, the latest first -/
  anchors : List (String × Node) := []

/-- Reading may fail. -/
abbrev Reading := StateT Reader (Except Fault)

/-- The deepest nesting of collections. -/
def depthLimit : Nat := 485

/-- The next token. -/
def peek : Reading Token := do
  let r ← get
  match r.tokens with
  | t :: _ => return t
  | [] => throw r.fault

/-- Go behind the next token. -/
def advance : Reading Unit :=
  modify fun r => { r with tokens := r.tokens.drop 1 }

/-- Go behind the next token if it is a given one. -/
def accept (t : Token) : Reading Bool := do
  if (← peek) == t then
    advance
    return true
  else return false

/-- Go behind a given token, which must come next. -/
def expect (t : Token) : Reading Unit := do
  if !(← accept t) then throw .malformed

/-- A node that is not written. -/
def missing : Node := .scalar (ownTag "null") ""

/-- The tag that a written one stands for. -/
def fullTag (t : WrittenTag) : Reading String := do
  match t.handle with
  | none => return t.suffix
  | some handle =>
    match (← get).handles.lookup handle with
    | some start => return start ++ t.suffix
    | none => throw .malformed

/-- An anchor's name and a tag, as they stand before a node. -/
structure Properties where
  anchor : Option String := none
  tag : Option WrittenTag := none

/-- Read an anchor and a tag, in either order. -/
def properties : Reading Properties := do
  match ← peek with
  | .anchor name =>
    advance
    match ← peek with
    | .tag t =>
      advance
      return ⟨some name, some t⟩
    | _ => return ⟨some name, none⟩
  | .tag t =>
    advance
    match ← peek with
    | .anchor name =>
      advance
      return ⟨some name, some t⟩
    | _ => return ⟨none, some t⟩
  | _ => return {}

/-- A tag, or a kind's own one where none is said. -/
def tagOr (tag : Option String) (kind : String) : String :=
  match tag with
  | none => ownTag kind
  | some t => if t == "!" then ownTag kind else t

/-- The tag of a scalar: that of a plain one where none is said. -/
def scalarTag (tag : Option String) (plain : Bool) (text : String) : String :=
  match tag with
  | none => if plain then plainTag text else ownTag "str"
  | some t => if t == "!" then plainTag text else t

/-- Meet an anchor, whose name must be new. -/
def meet (anchor : Option String) : Reading Unit := do
  match anchor with
  | none => pure ()
  | some name =>
    if (← get).named.contains name then throw .malformed
    else modify fun r => { r with named := name :: r.named }

/-- Keep the node of an anchor. -/
def keep (anchor : Option String) (n : Node) : Reading Node := do
  match anchor with
  | none => pure ()
  | some name => modify fun r => { r with anchors := (name, n) :: r.anchors }
  return n

/-- Which nodes may stand here: those of a flow, those of a block too, or behind a mapping's key
also items without an indentation of their own. -/
inductive Position
  | flow
  | block
  | entry
deriving Repr, DecidableEq

mutual

/-- Read a node, inside `depth` collections. -/
def node (fuel : Nat) (depth : Nat) (position : Position) : Reading Node := do
  match fuel with
  | 0 => throw .malformed
  | fuel + 1 =>
    if depthLimit < depth then throw .depth
    match ← peek with
    | .alias name =>
      advance
      if (← get).named.contains name then return .alias name else throw .malformed
    | _ =>
      let p ← properties
      let tag ← p.tag.mapM fullTag
      let start ← peek
      match start with
      | .scalar text plain =>
        advance
        meet p.anchor
        keep p.anchor (.scalar (scalarTag tag plain text) text)
      | .flowSequenceStart =>
        advance
        meet p.anchor
        keep p.anchor (.sequence (tagOr tag "seq") (← flowItems fuel (depth + 1) true))
      | .flowMappingStart =>
        advance
        meet p.anchor
        keep p.anchor (.mapping (tagOr tag "map") (← flowEntries fuel (depth + 1) true))
      | _ =>
        if start == .blockEntry && position == .entry then
          meet p.anchor
          keep p.anchor (.sequence (tagOr tag "seq") (← bareItems fuel (depth + 1)))
        else if start == .blockSequenceStart && position != .flow then
          advance
          meet p.anchor
          keep p.anchor (.sequence (tagOr tag "seq") (← blockItems fuel (depth + 1)))
        else if start == .blockMappingStart && position != .flow then
          advance
          meet p.anchor
          keep p.anchor (.mapping (tagOr tag "map") (← blockEntries fuel (depth + 1)))
        else if p.anchor.isSome || p.tag.isSome then
          meet p.anchor
          keep p.anchor (.scalar (scalarTag tag true "") "")
        else throw .malformed

/-- Read a node, unless one of some tokens comes next. -/
def nodeUnless (fuel : Nat) (depth : Nat) (position : Position) (stops : List Token) :
    Reading Node := do
  match fuel with
  | 0 => throw .malformed
  | fuel + 1 => if stops.contains (← peek) then return missing else node fuel depth position

/-- Read the items of a block to its end. -/
def blockItems (fuel : Nat) (depth : Nat) : Reading (List Node) := do
  match fuel with
  | 0 => throw .malformed
  | fuel + 1 =>
    if ← accept .blockEntry then
      let item ← nodeUnless fuel depth .block [.blockEntry, .blockEnd]
      return item :: (← blockItems fuel depth)
    else
      expect .blockEnd
      return []

/-- Read the items that stand at the indentation of the mapping around them. -/
def bareItems (fuel : Nat) (depth : Nat) : Reading (List Node) := do
  match fuel with
  | 0 => throw .malformed
  | fuel + 1 =>
    if ← accept .blockEntry then
      let item ← nodeUnless fuel depth .block [.blockEntry, .key, .value, .blockEnd]
      return item :: (← bareItems fuel depth)
    else return []

/-- Read the value behind a key, if a colon comes next. -/
def valueUnless (fuel : Nat) (depth : Nat) (position : Position) (stops : List Token) :
    Reading Node := do
  match fuel with
  | 0 => throw .malformed
  | fuel + 1 => if ← accept .value then nodeUnless fuel depth position stops else return missing

/-- Read the entries of a block to its end. -/
def blockEntries (fuel : Nat) (depth : Nat) : Reading (List (Node × Node)) := do
  match fuel with
  | 0 => throw .malformed
  | fuel + 1 =>
    match ← peek with
    | .blockEnd =>
      advance
      return []
    | .key =>
      advance
      let key ← nodeUnless fuel depth .entry [.key, .value, .blockEnd]
      let value ← valueUnless fuel depth .entry [.key, .value, .blockEnd]
      return (key, value) :: (← blockEntries fuel depth)
    | _ => throw .malformed

/-- Read the items between brackets to the closing one. -/
def flowItems (fuel : Nat) (depth : Nat) (first : Bool) : Reading (List Node) := do
  match fuel with
  | 0 => throw .malformed
  | fuel + 1 =>
    if ← accept .flowSequenceEnd then return []
    if !first then expect .flowEntry
    match ← peek with
    | .key =>
      if depthLimit < depth then throw .depth
      advance
      let key ← nodeUnless fuel (depth + 1) .flow [.value, .flowEntry, .flowSequenceEnd]
      let value ← valueUnless fuel (depth + 1) .flow [.flowEntry, .flowSequenceEnd]
      return .mapping (ownTag "map") [(key, value)] :: (← flowItems fuel depth false)
    | .flowSequenceEnd =>
      advance
      return []
    | _ =>
      let item ← node fuel depth .flow
      return item :: (← flowItems fuel depth false)

/-- Read the entries between braces to the closing one. -/
def flowEntries (fuel : Nat) (depth : Nat) (first : Bool) : Reading (List (Node × Node)) := do
  match fuel with
  | 0 => throw .malformed
  | fuel + 1 =>
    if ← accept .flowMappingEnd then return []
    if !first then expect .flowEntry
    match ← peek with
    | .key =>
      advance
      let key ← nodeUnless fuel depth .flow [.value, .flowEntry, .flowMappingEnd]
      let value ← valueUnless fuel depth .flow [.flowEntry, .flowMappingEnd]
      return (key, value) :: (← flowEntries fuel depth false)
    | .flowMappingEnd =>
      advance
      return []
    | _ =>
      let key ← node fuel depth .flow
      return (key, missing) :: (← flowEntries fuel depth false)

end

/-- What handles stand for unless a directive says otherwise. -/
def usualHandles : List (String × String) :=
  [("!", "!"), ("!!", tagStart)]

/-- Keep what a directive says. A version and each handle may be said once. -/
def declare (versioned : Bool) (handles : List (String × String)) (d : Directive) :
    Except Fault (Bool × List (String × String)) :=
  match d with
  | .version major _ =>
    if versioned || major != 1 then .error .malformed else .ok (true, handles)
  | .tag handle start =>
    if (handles.lookup handle).isSome then .error .malformed
    else .ok (versioned, (handle, start) :: handles)
  | .other => .ok (versioned, handles)

/-- Read directives as long as they come; `limit` bounds their number. -/
def directives : Nat → Bool → List (String × String) → Reading (List (String × String))
  | 0, _, handles => return handles
  | limit + 1, versioned, handles => do
    match ← peek with
    | .directive d =>
      advance
      let (versioned, handles) ← liftM (declare versioned handles d)
      directives limit versioned handles
    | _ => return handles

/-- Skip marks at the end of documents; `limit` bounds their number. -/
def skipEnds : Nat → Reading Unit
  | 0 => return
  | limit + 1 => do if ← accept .documentEnd then skipEnds limit

/-- The start of a document that is marked as such; false at the end of the text. -/
def documentHead (limit : Nat) : Reading Bool := do
  skipEnds limit
  if (← peek) == .streamEnd then return false
  else
    let handles ← directives limit false []
    expect .documentStart
    modify fun r => { r with handles := handles ++ usualHandles }
    return true

/-- The node of a document. Behind a mark it may be missing. -/
def documentNode (fuel : Nat) (marked : Bool) : Reading Node := do
  if !marked then node fuel 0 .block
  else
    match ← peek with
    | .directive _ | .documentStart | .documentEnd | .streamEnd => return missing
    | _ => node fuel 0 .block

/-- The document of a text, if there is one. There may be no second one. -/
def documentOf (fuel : Nat) : Reading (Option Document) := do
  let marked ←
    match ← peek with
    | .directive _ | .documentStart => documentHead fuel
    | .streamEnd => return none
    | _ => pure false
  let root ← documentNode fuel marked
  let anchors := (← get).anchors.reverse
  let _ ← accept .documentEnd
  if ← documentHead fuel then throw .malformed
  return some ⟨root, anchors⟩

/-- The document of a text, if there is one. -/
def document (text : String) : Except Fault (Option Document) :=
  let (ts, fault) := tokens text
  let r : Reader := ⟨ts, fault.getD .malformed, usualHandles, [], []⟩
  (documentOf (3 * ts.length + 3)).run' r

end Scaffold.Yaml
