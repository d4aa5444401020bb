import SongSheet.Yaml.Node.Meaning
import SongSheet.Yaml.Node.Reader

/-!
# YAML

The language of settings files, in version 1.1. A text is cut into tokens (`Token.scan`), these make
a tree of nodes (`Node.ofText?`), and nodes have values (`Node.value`). A text has one document, or
none, which is then null.
-/

set_option autoImplicit false

namespace SongSheet.Yaml

/-- The value that a text writes. -/
def read (t : Text) : Except Error Value := do
  let t := Text.unixLines t
  if t.all isAllowed then
    match ← Node.ofText? t with
    | some node => node.value
    | none => return .null
  else .error .malformed

end SongSheet.Yaml
