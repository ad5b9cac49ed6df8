import Scaffold.Text.Quoted

/-!
# What may stand on a command line

A `Grammar` has options, at most one kind of operand, and groups of options that exclude each
other. What is wrong with a command line is a `Misuse`, with one wording for each.
-/

namespace Scaffold.Cli

/-- What an option does. -/
inductive Effect
  /-- ask for help -/
  | help
  /-- stand for itself -/
  | flag
  /-- take the next text -/
  | value
deriving Repr, DecidableEq

/-- An option: its names, and what it does. Two options of one key are read together. -/
structure Switch where
  names : List String
  key : String
  effect : Effect
  /-- the texts that it may take, if they are limited -/
  choices : Option (List String) := none
  /-- it takes a whole number -/
  isNumber : Bool := false
deriving Repr, DecidableEq

/-- The names of an option together. -/
def Switch.title (s : Switch) : String := "/".intercalate s.names

/-- How many operands there may be. -/
inductive Arity
  | one
  | many
  /-- the name of a command, and all that follows it -/
  | command (names : List String)
deriving Repr, DecidableEq

/-- What stands on a command line besides options. -/
structure Operand where
  key : String
  arity : Arity
deriving Repr, DecidableEq

/-- Options of which one at most may be used. -/
structure Group where
  members : List Switch
  /-- one of them must be used -/
  required : Bool

/-- What may stand on a command line. -/
structure Grammar where
  /-- how the program is called -/
  program : String
  switches : List Switch
  operand : Option Operand := none
  groups : List Group := []

/-- What is wrong with a command line. -/
inductive Misuse
  | ambiguous (word : String) (names : List String)
  | unknown (words : List String)
  | missing (key : String)
  | missingGroup (titles : List String)
  | noValue (title : String)
  | unusedValue (title value : String)
  | conflict (title other : String)
  | invalidChoice (title value : String) (choices : List String)
  | invalidNumber (title value : String)
  | notAssignment (word : String)
  | notChoice (word : String) (count : Nat)
deriving Repr, DecidableEq

/-- The wording of a misuse. -/
def Misuse.message : Misuse → String
  | ambiguous word names =>
    s!"ambiguous option: {word} could match " ++ ", ".intercalate names
  | unknown words => "unrecognized arguments: " ++ " ".intercalate words
  | missing key => s!"the following arguments are required: {key}"
  | missingGroup titles =>
    "one of the arguments " ++ " ".intercalate titles ++ " is required"
  | noValue title => s!"argument {title}: expected one argument"
  | unusedValue title value =>
    s!"argument {title}: ignored explicit argument {Text.quoted value}"
  | conflict title other => s!"argument {title}: not allowed with argument {other}"
  | invalidChoice title value choices =>
    s!"argument {title}: invalid choice: {Text.quoted value} " ++
      "(choose from " ++ ", ".intercalate (choices.map Text.quoted) ++ ")"
  | invalidNumber title value => s!"argument {title}: invalid int value: {Text.quoted value}"
  | notAssignment word => s!"--set expects NAME=VALUE, got {Text.quoted word}"
  | notChoice word count =>
    s!"--choice expects INDEX=VALUE with INDEX below {count}, got {Text.quoted word}"

/-- Why a command line is not carried out: help is asked for, or it is misused. -/
inductive Stop
  | help
  | misuse (program : String) (fault : Misuse)
deriving Repr, DecidableEq

end Scaffold.Cli
