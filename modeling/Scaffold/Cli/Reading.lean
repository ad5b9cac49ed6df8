import Scaffold.Cli.Grammar
import Scaffold.Decimal.Reading
import Scaffold.Text.Split

/-!
# Reading a command line

`read` sorts the words of a command line by a grammar. A long option may be cut short as long as
one option starts that way, its value may follow an equals sign, and single letters may be written
together. Behind `--` every word is an operand.
-/

namespace Scaffold.Cli

/-- What a word looks like. -/
inductive Mark
  /-- two hyphens, behind which there are only operands -/
  | bar
  | operand
  /-- an option by one of its names, and what is written behind that, with its equals sign -/
  | switch (s : Switch) (name : String) (written : Option (List Char))
  /-- it looks like an option but is none -/
  | stray
deriving DecidableEq

namespace Mark

/-- An option, known or not. -/
def isSwitch : Mark → Bool
  | switch .. | stray => true
  | _ => false

end Mark

/-- A word and what it looks like. -/
abbrev Word := Mark × String

/-- The option of a name. -/
def Grammar.find? (g : Grammar) (name : String) : Option Switch :=
  g.switches.find? fun s => s.names.contains name

/-- The names of options in order, each with its option. -/
def Grammar.names (g : Grammar) : List (String × Switch) :=
  g.switches.flatMap fun s => s.names.map fun name => (name, s)

/-- A word up to its first equals sign, and what is behind it. -/
def splitValue (word : String) : String × Option String :=
  let (name, value) := Text.cut '=' word.toList
  (String.ofList name, value.map String.ofList)

/-- A text starts with another one. -/
def startsWith (text start : String) : Bool := start.toList.isPrefixOf text.toList

/-- A value behind its equals sign. -/
def assigned (value : String) : List Char := '=' :: value.toList

/-- The options that a word may be short for. -/
def Grammar.candidates (g : Grammar) (word : String) :
    List (Switch × String × Option (List Char)) :=
  if startsWith word "--" then
    let (start, value) := splitValue word
    g.names.filterMap fun (name, s) =>
      if startsWith name start then some (s, name, value.map assigned) else none
  else
    let letter := String.ofList (word.toList.take 2)
    g.names.filterMap fun (name, s) =>
      if name == letter then some (s, name, some (word.toList.drop 2))
      else if startsWith name word then some (s, name, none)
      else none

/-- A digit of any script. -/
def isDigit (c : Char) : Bool := (Text.digitValue? c).isSome

/-- A hyphen and a number; a line end behind it is overlooked. -/
def isNegativeNumber (word : String) : Bool :=
  let cs := word.toList
  let cs := if cs.getLast? == some '\n' then cs.dropLast else cs
  match cs with
  | '-' :: body =>
    match body.dropWhile isDigit with
    | [] => !body.isEmpty
    | '.' :: places => !places.isEmpty && places.all isDigit
    | _ => false
  | _ => false

/-- What a word looks like that starts with a hyphen and has more. -/
def Grammar.markSwitch (g : Grammar) (word : String) : Except Misuse Mark :=
  let (start, value) := splitValue word
  match g.find? word, (if value.isSome then g.find? start else none), g.candidates word with
  | some s, _, _ => .ok (.switch s word none)
  | none, some s, _ => .ok (.switch s start (value.map assigned))
  | none, none, [(s, name, written)] => .ok (.switch s name written)
  | none, none, [] =>
    if isNegativeNumber word || word.toList.contains ' ' then .ok .operand else .ok .stray
  | none, none, candidates => .error (.ambiguous word (candidates.map fun (_, name, _) => name))

/-- What a word looks like. -/
def Grammar.mark (g : Grammar) (word : String) : Except Misuse Mark :=
  match word.toList with
  | '-' :: _ :: _ => g.markSwitch word
  | _ => .ok .operand

/-- What the words of a command line look like. -/
def Grammar.marks (g : Grammar) : List String → Except Misuse (List Word)
  | [] => .ok []
  | word :: words =>
    if word == "--" then .ok ((.bar, word) :: words.map fun w => (.operand, w))
    else do
      let m ← g.mark word
      return (m, word) :: (← g.marks words)

/-- What was read so far. -/
structure Findings where
  /-- keys with texts, in order; a flag has an empty text -/
  bindings : List (String × String) := []
  /-- the options that were used -/
  used : List Switch := []
  /-- words that are neither options nor operands -/
  extras : List String := []
  /-- an operand was read -/
  hasOperand : Bool := false

namespace Findings

/-- One more binding. -/
def bind (key text : String) (f : Findings) : Findings :=
  { f with bindings := f.bindings ++ [(key, text)] }

/-- More words of no use. -/
def leave (words : List String) (f : Findings) : Findings :=
  { f with extras := f.extras ++ words }

/-- The last text of a key. -/
def last? (f : Findings) (key : String) : Option String :=
  (f.bindings.reverse.find? fun (k, _) => k == key).map Prod.snd

/-- All texts of a key. -/
def all (f : Findings) (key : String) : List String :=
  (f.bindings.filter fun (k, _) => k == key).map Prod.snd

/-- A flag was used. -/
def has (f : Findings) (key : String) : Bool := (f.last? key).isSome

end Findings

/-- The first of the options used before that a given one excludes. -/
def Grammar.conflict? (g : Grammar) (used : List Switch) (s : Switch) : Option Switch :=
  (g.groups.filter fun group => group.members.contains s).findSome? fun group =>
    group.members.find? fun other => other != s && used.contains other

/-- A value that an option may take. -/
def Switch.check (s : Switch) (value : String) : Except Misuse Unit :=
  if s.isNumber && (Decimal.int? value).isNone then .error (.invalidNumber s.title value)
  else
    match s.choices with
    | none => .ok ()
    | some choices =>
      if choices.contains value then .ok ()
      else .error (.invalidChoice s.title value choices)

/-- Use an option with a text, which is empty for a flag. -/
def Grammar.use (g : Grammar) (s : Switch) (text : String) (f : Findings) :
    Except Stop Findings := do
  if s.effect == .value then (s.check text).mapError (.misuse g.program)
  match g.conflict? f.used s with
  | some other => throw (.misuse g.program (.conflict s.title other.title))
  | none =>
    if s.effect == .help then throw .help
    else return { f with used := s :: f.used }.bind s.key text

/-- Options that are written in one word. -/
structure Cluster where
  /-- the options before the last one -/
  before : List Switch := []
  /-- the last one, with a text that is written behind it -/
  last : Option (Switch × Option String) := none
  /-- letters that are no options, behind a hyphen -/
  stray : List String := []

/-- One more option at the front. -/
def Cluster.cons (s : Switch) (c : Cluster) : Cluster :=
  { c with before := s :: c.before }

/-- What is written behind an option: a value if it takes one, else more letters. -/
def Grammar.cluster (g : Grammar) (s : Switch) : List Char → Except Misuse Cluster
  | [] => .ok { last := some (s, none) }
  | '=' :: cs =>
    let value := String.ofList cs
    if s.effect == .value then .ok { last := some (s, some value) }
    else .error (.unusedValue s.title value)
  | c :: cs =>
    let value := String.ofList (c :: cs)
    if s.effect == .value then .ok { last := some (s, some value) }
    else if c == '-' then .error (.unusedValue s.title value)
    else
      match g.find? (String.ofList ['-', c]) with
      | none => .ok { before := [s], stray := [String.ofList ('-' :: c :: cs)] }
      | some next => (g.cluster next cs).map (Cluster.cons s)

/-- The text that an option takes, which may be the next word, and the words that are left. -/
def Grammar.valueFor (g : Grammar) (s : Switch) (written : Option String) (words : List Word) :
    Except Stop (String × List Word) :=
  if s.effect != .value then .ok ("", words)
  else
    match written, words with
    | some text, _ => .ok (text, words)
    | none, (.operand, text) :: rest => .ok (text, rest)
    | none, _ => .error (.misuse g.program (.noValue s.title))

/-- Use the last option of a cluster and perhaps the word behind it; the words that are left. -/
def Grammar.useLast (g : Grammar) (last : Option (Switch × Option String)) (words : List Word)
    (f : Findings) : Except Stop (Findings × List Word) :=
  match last with
  | none => .ok (f, words)
  | some (s, written) => do
    let (text, rest) ← g.valueFor s written words
    return (← g.use s text f, rest)

/-- Use the options of a word and perhaps the word behind it; the words that are left. -/
def Grammar.useSwitch (g : Grammar) (s : Switch) (written : Option (List Char))
    (words : List Word) (f : Findings) : Except Stop (Findings × List Word) := do
  let c ← (g.cluster s (written.getD [])).mapError (.misuse g.program)
  if let some (last, text) := c.last then
    let _ ← g.valueFor last text words
  let f ← c.before.foldlM (fun f s => g.use s "" f) (f.leave c.stray)
  g.useLast c.last words f

/-- A word is no option. -/
def isPlain (w : Word) : Bool := !w.1.isSwitch

/-- The words of an operand at the start: those it takes, and those that are left. -/
def Arity.take (arity : Arity) (words : List Word) : Option (List Word × List Word) :=
  let isBar (w : Word) := w.1 == .bar
  let bars := words.takeWhile isBar
  match words.dropWhile isBar with
  | [] => none
  | w :: rest =>
    if w.1 != .operand then none
    else
      match arity with
      | .one => some (bars ++ w :: rest.takeWhile isBar, rest.dropWhile isBar)
      | .many => some (bars ++ w :: rest.takeWhile isPlain, rest.dropWhile isPlain)
      | .command _ => some (words, [])

/-- Bind an operand to its words. A bar among them says nothing, except before a command. -/
def Grammar.bindOperand (g : Grammar) (o : Operand) (words : List Word) (f : Findings) :
    Except Stop Findings :=
  let texts := words.map Prod.snd
  let f := { f with hasOperand := true }
  match o.arity, texts with
  | .command names, name :: _ =>
    if names.contains name then .ok (texts.foldl (fun f text => f.bind o.key text) f)
    else .error (.misuse g.program (.invalidChoice o.key name names))
  | _, texts => .ok ((texts.erase "--").foldl (fun f text => f.bind o.key text) f)

/-- Read operands at the start of words, if there are any and none were read. -/
def Grammar.readOperands (g : Grammar) (words : List Word) (f : Findings) :
    Except Stop (Findings × List Word) :=
  match g.operand with
  | none => .ok (f, words)
  | some o =>
    if f.hasOperand then .ok (f, words)
    else
      match o.arity.take words with
      | none => .ok (f, words)
      | some (taken, rest) => do return (← g.bindOperand o taken f, rest)

/-- Read the words up to the last option. -/
def Grammar.readSwitches (g : Grammar) (f : Findings) (words : List Word) :
    Except Stop (Findings × List Word) := do
  if words.all isPlain then return (f, words)
  else
    let (f, rest) ←
      if (words.head?.map isPlain).getD false then g.readOperands words f else pure (f, words)
    if _h : rest.length < words.length then g.readSwitches f rest
    else
      let f := f.leave ((words.takeWhile isPlain).map Prod.snd)
      let (f, rest) ←
        match words.dropWhile isPlain with
        | (.switch s _ written, _) :: rest => g.useSwitch s written rest f
        | (_, word) :: rest => pure (f.leave [word], rest)
        | [] => pure (f, [])
      if _h : rest.length < words.length then g.readSwitches f rest else return (f, rest)
termination_by words.length

/-- Nothing is missing that the grammar asks for. -/
def Grammar.checkComplete (g : Grammar) (f : Findings) : Except Misuse Unit := do
  match g.operand with
  | some o => if !f.hasOperand then throw (.missing o.key)
  | none => pure ()
  for group in g.groups do
    if group.required && !group.members.any f.used.contains then
      throw (.missingGroup (group.members.map Switch.title))

/-- Read the words of a command line. -/
def Grammar.read (g : Grammar) (words : List String) : Except Stop Findings := do
  let marked ← (g.marks words).mapError (.misuse g.program)
  let (f, rest) ← g.readSwitches {} marked
  let (f, rest) ← g.readOperands rest f
  let f := f.leave (rest.map Prod.snd)
  (g.checkComplete f).mapError (.misuse g.program)
  return f

end Scaffold.Cli
