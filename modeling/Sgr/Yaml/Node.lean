import Sgr.Value

/-!
# Nodes of a document

A document is a tree. Its leaves are scalars, and its inner nodes are sequences and mappings. Every
node has a tag, which says what its value is. An alias has been replaced by what it stands for.

## Main definitions

* `Yaml.Tag`, `Yaml.Tag.ofName` — the tags.
* `Yaml.Node` — the nodes.
-/

namespace Sgr.Yaml

/-- The tags: those with a value of their own, those of the keys of a mapping that brings in the
entries of others or stands for a scalar, and all others. -/
inductive Tag where
  | null
  | truth
  | whole
  | fraction
  | moment
  | text
  | bytes
  | sequence
  | mapping
  | set
  | ordered
  | pairs
  | merge
  | content
  | other (name : String)
  deriving DecidableEq, Repr, Inhabited

namespace Tag

/-- The start of the names of the common tags. -/
def common : String := "tag:yaml.org,2002:"

/-- The common tags and their names behind the start. -/
def names : List (String × Tag) :=
  [("null", null), ("bool", truth), ("int", whole), ("float", fraction), ("timestamp", moment),
   ("str", text), ("binary", bytes), ("seq", sequence), ("map", mapping), ("set", set),
   ("omap", ordered), ("pairs", pairs), ("merge", merge), ("value", content)]

/-- The tag of a name. -/
def ofName (name : String) : Tag :=
  ((names.find? fun (n, _) => common ++ n = name).map Prod.snd).getD (.other name)

/-- The name of a tag. -/
def name : Tag → String
  | other name => name
  | tag => common ++ ((names.find? (·.2 = tag)).map Prod.fst).getD ""

end Tag

/-- A node of a document. -/
inductive Node where
  | scalar (tag : Tag) (text : String)
  | sequence (tag : Tag) (items : List Node)
  | mapping (tag : Tag) (entries : List (Node × Node))
  deriving Inhabited

end Sgr.Yaml
