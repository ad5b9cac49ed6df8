import Scaffold.Template.Scan
import Scaffold.Reply.Basic
import Scaffold.Json.Value
import Scaffold.Log.Record

/-!
# Filling a template

Selections fill the choice tokens in order (`fillChoices`), values fill the simple ones by name
(`fillPlaceholders`), and `resolve` does one after the other. `collectSelections` makes the
selections from picks, answers to AI inputs, and defaults.
-/

namespace Scaffold.Template

/-- What is selected for a choice token. -/
inductive Selection
  | absent
  | text (s : String)
  | picks (items : List String)
  /-- bytes that a provider handed back, shown as numbers -/
  | bytes (b : ByteArray)

namespace Selection

/-- A selection as it is put into a template. -/
def render : Selection → String
  | absent => ""
  | text s => s
  | picks items => Json.listed items
  | bytes b => Json.listed (b.toList.map fun x => toString x.toNat)

/-- A selection given as a value: nothing, a text, items or the keys of an object. -/
def ofJson? : Json → Option Selection
  | .null => some .absent
  | .text s => some (.text s)
  | .array items => some (.picks (items.map Json.inserted))
  | .object fields => some (.picks (fields.map Prod.fst))
  | _ => none

end Selection

/-- A text with the spans of tokens replaced, from the place `cursor` on. -/
def substituteFrom (cursor : Nat) (cs : List Char) : List (Token × String) → List Char
  | [] => cs
  | (token, replacement) :: rest =>
    cs.take (token.start - cursor) ++ replacement.toList ++
      substituteFrom token.stop (cs.drop (token.stop - cursor)) rest

/-- A template with the spans of tokens replaced. -/
def substitute (template : String) (tokens : List Token) (replacements : List String) : String :=
  String.ofList (substituteFrom 0 template.toList (tokens.zip replacements))

/-- The selection of a place, rendered; empty where there is none. -/
def renderedAt (selections : List Selection) (i : Nat) : String :=
  (selections[i]?.getD .absent).render

/-- Replace the choice tokens by the selections, in order. -/
def fillChoices (template : String) (selections : List Selection) : String :=
  let tokens := choiceTokens template
  substitute template tokens ((List.range tokens.length).map (renderedAt selections))

/-- Values by name. -/
abbrev Values := List (String × String)

/-- The value of a name; empty where there is none. -/
def Values.text (values : Values) (name : String) : String :=
  (values.lookup name).getD ""

/-- The simple tokens of a template with their names. -/
def simpleTokens (template : String) : List (Token × String) :=
  (scan template).filterMap fun t =>
    match t.placeholder with
    | .simple name => some (t, name)
    | _ => none

/-- Replace the simple tokens by the values of their names. -/
def fillPlaceholders (template : String) (values : Values) : String :=
  let tokens := simpleTokens template
  substitute template (tokens.map Prod.fst) (tokens.map fun (_, name) => values.text name)

/-- Fill the choices, then the names. -/
def resolve (template : String) (selections : List Selection) (values : Values) : String :=
  fillPlaceholders (fillChoices template selections) values

/-- What is selected when nothing is picked. -/
def defaultSelections (tokens : List Token) : List String :=
  tokens.map Token.defaultText

/-- The bytes that count as white space around a reply of bytes. -/
def isBlankByte (b : UInt8) : Bool :=
  b == 0x20 || (0x09 ≤ b && b ≤ 0x0d)

/-- Bytes without white space at either end. -/
def stripBytes (b : ByteArray) : ByteArray :=
  let bs := b.toList.dropWhile isBlankByte
  ⟨(bs.reverse.dropWhile isBlankByte).reverse.toArray⟩

/-- A reply to an AI input as a selection, with the default for a blank one. -/
def Selection.ofReply (default : String) : Reply → Selection
  | .text s => let s := Text.strip s; .text (if s.isEmpty then default else s)
  | .wide t => let s := Text.strip t.shown; .text (if s.isEmpty then default else s)
  | .bytes b => let b := stripBytes b; if b.isEmpty then .text default else .bytes b
  | .nothing => .text default

section

variable {σ : Type} [Log.Journal σ]

/-- A way to have a question answered. -/
abbrev Ask (σ : Type) := String → StateM σ (Except Failure Reply)

/-- The answer to an AI input: the default if asking fails or the reply is blank. -/
def answerAi (ask : Ask σ) (prompt default : String) : StateM σ Selection := do
  match ← ask prompt with
  | .ok reply => return .ofReply default reply
  | .error failure =>
    Log.note .warning "templating"
      s!"AI input request failed for {Text.quoted prompt}: {failure.message}"
    return .text default

/-- The selection of one token: a pick that is not empty, else an answer, else the default. -/
def collectOne (picks : Nat → Selection) (ask : Option (Ask σ)) (i : Nat) (token : Token) :
    StateM σ Selection := do
  let picked := (picks i).render
  if !picked.isEmpty then return .text picked
  else
    match token.placeholder.prompt?, ask with
    | some prompt, some ask => answerAi ask prompt token.defaultText
    | _, _ => return .text token.defaultText

/-- The selections of tokens, the first of which has the place `i`. -/
def collectFrom (picks : Nat → Selection) (ask : Option (Ask σ)) (i : Nat) :
    List Token → StateM σ (List Selection)
  | [] => return []
  | token :: tokens => do
    let selection ← collectOne picks ask i token
    let selections ← collectFrom picks ask (i + 1) tokens
    return selection :: selections

/-- One selection for each token. -/
def collectSelections (tokens : List Token) (picks : Nat → Selection) (ask : Option (Ask σ)) :
    StateM σ (List Selection) :=
  collectFrom picks ask 0 tokens

end

end Scaffold.Template
