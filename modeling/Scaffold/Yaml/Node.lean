/-!
# Nodes of a YAML text

What a text says before its tags are read: scalars, sequences and mappings, each with its full
tag, and aliases. An anchor names one node of a document, so an alias needs no more than the name.
-/

namespace Scaffold.Yaml

/-- A node. -/
inductive Node
  | scalar (tag text : String)
  | sequence (tag : String) (items : List Node)
  | mapping (tag : String) (entries : List (Node × Node))
  | alias (name : String)

/-- The start of the tags of YAML's own kinds. -/
def tagStart : String := "tag:yaml.org,2002:"

/-- One of YAML's own tags. -/
def ownTag (kind : String) : String := tagStart ++ kind

/-- A node, and those that anchors name, each after the ones inside it. -/
structure Document where
  root : Node
  anchors : List (String × Node)

end Scaffold.Yaml
