import Scaffold.Yaml.Document
import Scaffold.Yaml.ScalarValue

/-!
# The value of a text

A document's nodes are given their values from the inside out (`assemble`), merging included, and
`load` is the value of a text. Faults are kept by depth: the outermost one counts, and of several
at one depth the first.
-/

namespace Scaffold.Yaml

/-- The first fault at each depth, from a node inwards. -/
abbrev Faults := List (Option Fault)

/-- The faults of two things at one depth, of which the first comes before the second. -/
def Faults.beside : Faults → Faults → Faults
  | [], b => b
  | a, [] => a
  | x :: a, y :: b => (x <|> y) :: Faults.beside a b

/-- The faults of things at one depth. -/
def Faults.all (l : List Faults) : Faults := l.foldr Faults.beside []

/-- The faults of things that lie inside a node. -/
def Faults.inside (a : Faults) : Faults := if a.isEmpty then [] else none :: a

/-- The outermost fault. -/
def Faults.first? (a : Faults) : Option Fault := a.findSome? id

/-- A node with its value, and its parts with theirs. -/
inductive Built
  | scalar (tag text : String) (value : Value) (faults : Faults)
  | sequence (tag : String) (items : List Built) (value : Value) (faults : Faults)
  /-- `merged` are the entries once those of other mappings are merged into them -/
  | mapping (tag : String) (entries : List (Built × Built))
      (merged : Except Fault (List (Built × Built))) (value : Value) (faults : Faults)

namespace Built

/-- The tag. -/
def tag : Built → String
  | scalar tag .. | sequence tag .. | mapping tag .. => tag

/-- The value; of a faulty node, anything. -/
def value : Built → Value
  | scalar _ _ value _ | sequence _ _ value _ | mapping _ _ _ value _ => value

/-- The faults. -/
def faults : Built → Faults
  | scalar _ _ _ faults | sequence _ _ _ faults | mapping _ _ _ _ faults => faults

/-- A kind's name without the start that YAML's own tags share. -/
def kindOf? (tag : String) : Option String :=
  if tagStart.toList.isPrefixOf tag.toList then
    some (String.ofList (tag.toList.drop tagStart.length))
  else none

/-- It has this one of YAML's own tags. -/
def isOf (kind : String) (b : Built) : Bool := b.tag == ownTag kind

/-- A fault of the node itself. -/
def own (f : Fault) : Value × Faults := (.null, [some f])

/-- A fault that shows when the parts are looked at. -/
def deferred (f : Fault) : Value × Faults := (.null, [none, some f])

/-- The values and faults of a mapping's entries, in order. No key may be a collection. -/
def entryFaults (entries : List (Built × Built)) : Faults :=
  Faults.all (entries.map fun (k, v) =>
    Faults.all [k.faults, if k.value.isCollection then [some .malformed] else [], v.faults])

/-- What the entries of a mapping give, under a kind of mapping. -/
def readEntries (make : List (Value × Value) → Value)
    (merged : Except Fault (List (Built × Built))) : Value × Faults :=
  match merged with
  | .error f => deferred f
  | .ok entries =>
    (make (entries.map fun (k, v) => (k.value, v.value)), (entryFaults entries).inside)

/-- An item that is a mapping of one entry: the pair and its faults. -/
def readPair : Built → Value × Faults
  | mapping _ [(k, v)] _ _ _ => (.list [k.value, v.value], k.faults.beside v.faults)
  | _ => own .malformed

/-- What items give when each must be a mapping of one entry. -/
def readPairs (items : List Built) : Value × Faults :=
  let pairs := items.map readPair
  (.list (pairs.map (·.1)), (Faults.all (pairs.map (·.2))).inside)

/-- What the text of a scalar gives under a tag. -/
def readScalar (tag text : String) : Value × Faults :=
  match (kindOf? tag).bind fun kind => scalarValue? kind text with
  | some (.ok v) => (v, [])
  | some (.error f) => own f
  | none =>
    match kindOf? tag with
    | some "seq" | some "map" | some "set" | some "omap" | some "pairs" => deferred .malformed
    | _ => own .malformed

/-- What a collection gives under a scalar's tag: the text that stands for it, if there is one. -/
def readAsScalar (tag : String) (text : Option String) : Value × Faults :=
  match text with
  | none => own .malformed
  | some text => if tag == ownTag "timestamp" then own .dateType else readScalar tag text

/-- A scalar with its value. -/
def ofScalar (tag text : String) : Built :=
  let (value, faults) := readScalar tag text
  scalar tag text value faults

/-- A sequence with its value. -/
def ofItems (tag : String) (items : List Built) : Built :=
  let (value, faults) :=
    match kindOf? tag with
    | some "seq" =>
      (.list (items.map Built.value), (Faults.all (items.map Built.faults)).inside)
    | some "omap" | some "pairs" => readPairs items
    | some "map" | some "set" => deferred .malformed
    | _ => own .malformed
  sequence tag items value faults

/-- The text that a mapping stands for where a scalar is asked for: that of its entry for `=`. -/
def standIn? : Nat → Built → Option String
  | 0, _ => none
  | fuel + 1, b =>
    match b with
    | scalar _ text _ _ => some text
    | sequence .. => none
    | mapping _ entries _ _ _ =>
      match entries.find? fun (k, _) => k.isOf "value" with
      | some (_, v) => standIn? fuel v
      | none => none

/-- A key `=` is a text where entries are read as a mapping's. -/
def asKey (k : Built) : Built :=
  match k with
  | scalar _ text _ _ => if k.isOf "value" then ofScalar (ownTag "str") text else k
  | sequence _ items v _ =>
    if k.isOf "value" then sequence (ownTag "str") items v [some .malformed] else k
  | mapping _ entries merged v _ =>
    if k.isOf "value" then mapping (ownTag "str") entries merged v [some .malformed] else k

/-- The entries of a mapping that others merge. -/
def mergedEntries : Built → Except Fault (List (Built × Built))
  | mapping _ _ merged _ _ => merged
  | _ => .error .malformed

/-- The entries that the value of a key `<<` adds: those of a mapping, or of several, the last
first. -/
def addedEntries : Built → Except Fault (List (Built × Built))
  | sequence _ items _ _ => do return (← items.mapM mergedEntries).reverse.flatten
  | b => mergedEntries b

/-- The entries of a mapping with others merged into them; its own come last. -/
def merge (entries : List (Built × Built)) : Except Fault (List (Built × Built)) := do
  let added ← (entries.filter fun (k, _) => k.isOf "merge").mapM fun (_, v) => addedEntries v
  return added.flatten ++
    (entries.filter fun (k, _) => !k.isOf "merge").map fun (k, v) => (k.asKey, v)

/-- How many mappings may stand in for one another. -/
def standInLimit : Nat := 485

/-- A mapping with its value. -/
def ofEntries (tag : String) (entries : List (Built × Built)) : Built :=
  let merged := merge entries
  let (value, faults) :=
    match kindOf? tag with
    | some "map" => readEntries .map merged
    | some "set" => readEntries (fun l => .set (l.map (·.1))) merged
    | some "seq" | some "omap" | some "pairs" => deferred .malformed
    | _ => readAsScalar tag (standIn? standInLimit (mapping tag entries merged .null []))
  mapping tag entries merged value faults

end Built

/-- Nodes that anchors name. -/
abbrev Anchors := List (String × Built)

mutual

/-- A node with its value, where anchors are known. -/
def assemble (known : Anchors) : Node → Built
  | .scalar tag text => .ofScalar tag text
  | .sequence tag items => .ofItems tag (assembleItems known items)
  | .mapping tag entries => .ofEntries tag (assembleEntries known entries)
  | .alias name => (known.lookup name).getD (.ofScalar (ownTag "null") "")

/-- Nodes with their values. -/
def assembleItems (known : Anchors) : List Node → List Built
  | [] => []
  | n :: items => assemble known n :: assembleItems known items

/-- Entries with their values. -/
def assembleEntries (known : Anchors) : List (Node × Node) → List (Built × Built)
  | [] => []
  | (k, v) :: entries => (assemble known k, assemble known v) :: assembleEntries known entries

end

/-- A node without its parts. -/
def hollow : Node → Built
  | .scalar tag text => .ofScalar tag text
  | .sequence tag _ => .ofItems tag []
  | .mapping tag _ => .ofEntries tag []
  | .alias _ => .ofScalar (ownTag "null") ""

/-- The anchored nodes with their values. An alias inside the node that it names stands for what is
known of that node before. -/
def assembleAnchors (before : Anchors) (anchors : List (String × Node)) : Anchors :=
  anchors.foldl (fun known (name, n) => (name, assemble (known ++ before) n) :: known) []

/-- How often a node that contains itself is unrolled. Nobody looks deeper. -/
def unrollings : Nat := 4

/-- The anchored nodes of a document. -/
def Document.knownAnchors (d : Document) : Anchors :=
  Nat.repeat (fun before => assembleAnchors before d.anchors) unrollings
    (d.anchors.map fun (name, n) => (name, hollow n))

/-- The value of a document. -/
def Document.value (d : Document) : Except Fault Value :=
  let b := assemble d.knownAnchors d.root
  match b.faults.first? with
  | some f => .error f
  | none => .ok b.value

/-- The value of a text; one without a document is null. -/
def load (text : String) : Except Fault Value := do
  match ← document text with
  | none => return .null
  | some d => d.value

end Scaffold.Yaml
