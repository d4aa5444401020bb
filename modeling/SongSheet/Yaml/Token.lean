import SongSheet.Yaml.Tag

/-!
# Tokens

The smallest pieces of a YAML text that have a meaning. Indentation has become tokens too:
`blockOpen` tokens where a deeper collection begins, and `blockClose` where it ends. A key that is
only seen to be one at its colon has its `key` in front all the same.

The end of the tokens is the end of the text, unless the last one is a `fault`.
-/

set_option autoImplicit false

namespace SongSheet.Yaml

/-- A piece of a YAML text. -/
inductive Token where
  | directive (directive : Directive)
  | documentStart
  | documentEnd
  | sequenceBlockOpen
  | mappingBlockOpen
  | blockClose
  | sequenceOpen
  | sequenceClose
  | mappingOpen
  | mappingClose
  /-- A comma between brackets. -/
  | comma
  /-- The dash in front of an item. -/
  | dash
  | key
  | value
  | alias (name : Text)
  | anchor (name : Text)
  | tag (tag : WrittenTag)
  | scalar (text : Text) (isPlain : Bool)
  /-- The text goes on with something that is no token. -/
  | fault (error : Error)

end SongSheet.Yaml
