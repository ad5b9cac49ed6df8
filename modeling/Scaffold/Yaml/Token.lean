/-!
# Tokens of a YAML text

The marks, scalars and properties that a text is made of. Blocks that are shown by indentation
have tokens of their own for where they start and end.
-/

namespace Scaffold.Yaml

/-- A tag as it is written: behind a handle, or in full. -/
structure WrittenTag where
  handle : Option String
  suffix : String
deriving Repr, DecidableEq

/-- A line that starts with a percent sign. -/
inductive Directive
  | version (major minor : Nat)
  | tag (handle start : String)
  | other
deriving Repr, DecidableEq

/-- A token. -/
inductive Token
  | directive (d : Directive)
  | documentStart
  | documentEnd
  | streamEnd
  | blockSequenceStart
  | blockMappingStart
  | blockEnd
  | flowSequenceStart
  | flowSequenceEnd
  | flowMappingStart
  | flowMappingEnd
  /-- the hyphen before an item -/
  | blockEntry
  /-- the comma between items -/
  | flowEntry
  | key
  | value
  | alias (name : String)
  | anchor (name : String)
  | tag (t : WrittenTag)
  /-- a scalar; plain if it stands without quotes and indicators -/
  | scalar (text : String) (plain : Bool)
deriving Repr, DecidableEq

end Scaffold.Yaml
