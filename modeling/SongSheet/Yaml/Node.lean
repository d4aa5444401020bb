import SongSheet.Yaml.Tag
import SongSheet.Yaml.Moment
import SongSheet.Yaml.Number

/-!
# Nodes

A document is a tree of nodes: texts, sequences, and mappings whose keys may be any nodes. Each has
a kind. A plain scalar without a tag has the kind that its text looks like.

A key of the kind `merge` brings the entries of other mappings into a mapping, in front of its own,
so that its own count where both have a key.
-/

set_option autoImplicit false

namespace SongSheet.Yaml

/-- A part of a document. -/
inductive Node where
  | scalar (kind : Kind) (text : Text)
  | sequence (kind : Kind) (items : List Node)
  /-- A mapping with its entries as written, and with those merged in that it asks for; these are
  missing if it asks for something else than mappings. -/
  | mapping (kind : Kind) (entries : List (Node × Node)) (merged : Option (List (Node × Node)))
  /-- A collection that the node is inside of. -/
  | enclosing

namespace Kind

/-- Whether a scalar is one of some words, each in lower case, with a capital or in capitals. -/
def isWord (words : List String) (t : Text) : Bool :=
  words.any fun (w : String) =>
    t = Text.ofString w || t = Text.ofString w.capitalize || t = Text.ofString w.toUpper

/-- The kind that the text of a plain scalar looks like. -/
def ofPlain (t : Text) : Kind :=
  if isWord ["yes", "no", "true", "false", "on", "off"] t then bool
  else if isFloatForm t then float
  else if isIntForm t then int
  else if t = "<<" then merge
  else if t.isEmpty || t = "~" || isWord ["null"] t then null
  else if Moment.isForm t then timestamp
  else if t = "=" then default
  else text

/-- The kind that a text looks like. A line feed at its end does not count, but it is no empty text.
-/
def ofText (t : Text) : Kind :=
  match ofPlain t with
  | text =>
    if t.getLast? = some ('\n' : CodePoint) ∧ 1 < t.length then ofPlain t.dropLast else text
  | kind => kind

end Kind

namespace Node

/-- A scalar that is not there. -/
def missing : Node := .scalar .null []

/-- The kind of a node. -/
def kind : Node → Kind
  | scalar kind _ | sequence kind _ | mapping kind _ _ => kind
  | enclosing => .unknown

/-- The entries that a mapping merges in from the mapping that a node is. -/
def mergedEntries? : Node → Option (List (Node × Node))
  | mapping _ _ merged => merged
  | enclosing => some []
  | _ => none

/-- The entries that a mapping merges in from a node: those of a mapping, or of the mappings in a
sequence, the last one first. -/
def sources? : Node → Option (List (Node × Node))
  | sequence _ items => do return (← items.mapM mergedEntries?).reverse.flatten
  | node => node.mergedEntries?

/-- A key that stands for itself once the mapping is read as one. -/
def plainKey : Node → Node
  | scalar .default t => scalar .text t
  | mapping .default entries merged => mapping .text entries merged
  | node => node

/-- A mapping of entries. -/
def ofEntries (kind : Kind) (entries : List (Node × Node)) : Node :=
  let (merges, own) := entries.partition fun (key, _) => key.kind = .merge
  let merged := do
    return (← merges.mapM fun (_, value) => value.sources?).flatten
      ++ own.map fun (key, value) => (key.plainKey, value)
  mapping kind entries merged

end Node

end SongSheet.Yaml
