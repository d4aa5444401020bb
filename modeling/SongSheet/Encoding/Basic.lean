import SongSheet.Encoding.Utf8

/-!
# Encodings

An encoding says which text octets stand for. It is known by its own name and by others. A name is
looked up in its plain form: in lower case, with one underscore in place of whatever stands between
its words.
-/

set_option autoImplicit false

namespace SongSheet

/-- Why octets are no text. -/
inductive DecodeFailure where
  /-- Some of the octets stand for nothing. -/
  | octets (error : DecodeError)
  /-- The octets have not the form of the encoding, as where a byte order mark is missing. -/
  | form
  deriving DecidableEq, Repr

/-- An encoding. -/
structure Encoding where
  name : String
  aliases : List String := []
  decode : List UInt8 → Except DecodeFailure Text

namespace Encoding

/-- An encoding that fails on some octets only. -/
def ofDecoder (name : String) (aliases : List String)
    (decode : List UInt8 → Except DecodeError Text) : Encoding :=
  { name, aliases, decode := fun octets => (decode octets).mapError .octets }

/-- A letter, a digit or a point, which count in a name. -/
def counts (c : CodePoint) : Bool :=
  c.between 'a' 'z' || c.between 'A' 'Z' || c.between '0' '9' || c = '.'

/-- The plain form of a name. `gap` says that something that does not count came just before,
`started` that something that counts came earlier. -/
def plainFrom (started gap : Bool) : Text → Text
  | [] => []
  | c :: t =>
    if counts c then
      let c : CodePoint := if c.between 'A' 'Z' then .ofNat (c.val + 32) else c
      (if gap && started then (['_'] : Text) else []) ++ c :: plainFrom true false t
    else plainFrom started true t

/-- A name with underscores in place of its points. -/
def withoutPoints (name : Text) : Text :=
  name.map fun (c : CodePoint) => if c = '.' then ('_' : CodePoint) else c

/-- The encoding of a name. In a name other than its own, a point counts as an underscore does. -/
def find? (encodings : List Encoding) (name : Text) : Option Encoding :=
  let plain := plainFrom false false name
  let isAlias (e : Encoding) : Bool := e.aliases.any fun (a : String) =>
    Text.ofString a = plain || Text.ofString a = withoutPoints plain
  (encodings.find? isAlias).or (encodings.find? fun e => Text.ofString e.name = plain)

end Encoding

end SongSheet
