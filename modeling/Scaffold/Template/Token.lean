/-!
# Placeholders and tokens

A template is text with placeholders in double braces. A `Placeholder` is what stands between the
braces, read; a `Token` is a placeholder at its place in a template.
-/

namespace Scaffold.Template

/-- What a pair of double braces asks for. -/
inductive Placeholder
  /-- a value by name -/
  | simple (name : String)
  /-- one of some options, under a name -/
  | named (name : String) (options : List String) (default : Option String)
  /-- one of some options -/
  | anonymous (options : List String) (default : Option String)
  /-- some of several options -/
  | radio (options : List String) (default : Option String)
  /-- an answer of the text-generation provider -/
  | ai (prompt : String) (default : Option String)
deriving Repr, DecidableEq

namespace Placeholder

/-- The name of the placeholder's grammar. -/
def kind : Placeholder → String
  | simple _ => "simple"
  | named .. => "named_choice"
  | anonymous .. => "anonymous_choice"
  | radio .. => "radio"
  | ai .. => "ai_input"

/-- The name it has, if its grammar has names. -/
def name? : Placeholder → Option String
  | simple name => some name
  | named name _ _ => some name
  | _ => none

/-- The options it offers, if its grammar has options. -/
def options? : Placeholder → Option (List String)
  | named _ options _ => some options
  | anonymous options _ => some options
  | radio options _ => some options
  | _ => none

/-- What stands for it when nothing is selected. -/
def default? : Placeholder → Option String
  | simple _ => none
  | named _ _ default => default
  | anonymous _ default => default
  | radio _ default => default
  | ai _ default => default

/-- The question it asks, if its grammar asks one. -/
def prompt? : Placeholder → Option String
  | ai prompt _ => some prompt
  | _ => none

/-- Filled by name and not by a selection. -/
def isSimple : Placeholder → Bool
  | simple _ => true
  | _ => false

/-- Its answer is asked of the provider. -/
def isAi : Placeholder → Bool
  | ai .. => true
  | _ => false

/-- It takes several picks. -/
def isRadio : Placeholder → Bool
  | radio .. => true
  | _ => false

end Placeholder

/-- A placeholder in a template: its text, braces included, and where that starts. -/
structure Token where
  placeholder : Placeholder
  raw : String
  start : Nat
deriving Repr, DecidableEq

namespace Token

/-- The place after the token's last brace. -/
def stop (t : Token) : Nat := t.start + t.raw.length

/-- Filled by a selection. -/
def isChoice (t : Token) : Bool := !t.placeholder.isSimple

/-- What is selected when nothing is picked. -/
def defaultText (t : Token) : String := t.placeholder.default?.getD ""

end Token

end Scaffold.Template
