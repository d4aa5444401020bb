import SongSheet.Encoding.Utf8
import SongSheet.Yaml.Error
import SongSheet.Yaml.Source

/-!
# Tags

A tag says of what kind a node is. It is written with a handle in front, which directives give a
meaning, or whole in angle brackets. `Kind` are the kinds that have a meaning here.

Directives stand in front of a document: its version, the meaning of a handle, or others that do not
count.
-/

set_option autoImplicit false

namespace SongSheet.Yaml

/-- The kinds of nodes. -/
inductive Kind where
  | null
  | bool
  | int
  | float
  | binary
  | timestamp
  | text
  | sequence
  | mapping
  | set
  /-- A mapping written as a sequence, in whose order it is. -/
  | ordered
  /-- As `ordered`, where a key may come twice. -/
  | pairs
  /-- The key under which mappings are merged into another. -/
  | merge
  /-- The key under which a mapping has a scalar that it can stand for. -/
  | default
  | unknown
  deriving DecidableEq, Repr

/-- What the names of all kinds begin with. -/
def standardPrefix : Text := "tag:yaml.org,2002:"

/-- The kinds by their names. -/
def Kind.names : List (String × Kind) :=
  [("null", null), ("bool", bool), ("int", int), ("float", float), ("binary", binary),
    ("timestamp", timestamp), ("str", text), ("seq", sequence), ("map", mapping), ("set", set),
    ("omap", ordered), ("pairs", pairs), ("merge", merge), ("value", default)]

/-- The kind of a whole tag. -/
def Kind.ofTag (tag : Text) : Kind :=
  match Text.after? standardPrefix tag with
  | none => unknown
  | some name =>
    ((names.find? fun (s, _) => Text.ofString s = name).map (·.2)).getD unknown

/-- A tag as it is written. One without a handle is whole. -/
structure WrittenTag where
  handle : Option Text
  name : Text

/-- The tag that leaves open of what kind a node is. -/
def openTag : Text := "!"

/-- What stands in front of a document. -/
inductive Directive where
  | version (major : Nat)
  | handle (name meaning : Text)
  | other

namespace Tag

/-- A letter of a name: a letter or a digit of ASCII, a dash or an underscore. -/
def isNameLetter (c : CodePoint) : Bool :=
  c.between '0' '9' || c.between 'A' 'Z' || c.between 'a' 'z' || c = '-' || c = '_'

/-- A name in front of a text, and the rest. -/
def name? (t : Text) : Option (Text × Text) :=
  let (name, rest) := t.span isNameLetter
  if name.isEmpty then none else some (name, rest)

/-- Signs that a tag may have beside letters and digits. -/
def tagSigns : Text := "-;/?:@&=+$,_.!~*'()[]"

/-- A code point that stands for itself in a tag. -/
def isTagLetter (c : CodePoint) : Bool := isNameLetter c || tagSigns.elem c

/-- Octets that are written by a percent sign and two hexadecimal digits each, and the rest. -/
def octets : Text → Except Error (List UInt8 × Text)
  | c :: a :: b :: t =>
    if c = '%' then
      match a.hexDigit?, b.hexDigit? with
      | some high, some low =>
        (octets t).map fun (more, rest) => ((high * 16 + low).toUInt8 :: more, rest)
      | _, _ => .error .malformed
    else .ok ([], c :: a :: b :: t)
  | c :: t => if c = '%' then .error .malformed else .ok ([], c :: t)
  | [] => .ok ([], [])

/-- What follows the handle of a tag, and the rest. Every step takes a code point. -/
def bodyFrom : Nat → Text → Except Error (Text × Text)
  | 0, t => .ok ([], t)
  | _, [] => .ok ([], [])
  | steps + 1, c :: t =>
    if c = '%' then do
      let (octets, rest) ← octets (c :: t)
      match Utf8.decode octets with
      | .error _ => .error .malformed
      | .ok piece => (bodyFrom steps rest).map fun (more, rest) => (piece ++ more, rest)
    else if isTagLetter c then (bodyFrom steps t).map fun (more, rest) => (c :: more, rest)
    else .ok ([], c :: t)

/-- What follows the handle of a tag, which is something, and the rest. -/
def body (t : Text) : Except Error (Text × Text) := do
  let (body, rest) ← bodyFrom t.length t
  if body.isEmpty then .error .malformed else return (body, rest)

/-- A handle: a name between exclamation marks, two of them, or one in front of a space. -/
def handle : Text → Except Error (Text × Text)
  | mark :: t =>
    if mark ≠ '!' then .error .malformed
    else if t.head? = some (' ' : CodePoint) then .ok ([mark], t)
    else
      let (name, rest) := t.span isNameLetter
      match rest with
      | d :: rest => if d = '!' then .ok (mark :: name ++ [d], rest) else .error .malformed
      | [] => .error .malformed
  | [] => .error .malformed

/-- What has to be in front of a space or the end of a line. -/
def spaced {α : Type} (answer : α × Text) : Except Error (α × Text) :=
  if isSpaceNext answer.2 then .ok answer else .error .malformed

/-- A tag from its exclamation mark on, and the rest. -/
def read (t : Text) : Except Error (WrittenTag × Text) := do
  let behind : Text := t.drop 1
  if behind.head? = some ('<' : CodePoint) then
    match ← body (behind.drop 1) with
    | (name, d :: rest) =>
      if d = '>' then spaced (⟨none, name⟩, rest) else .error .malformed
    | (_, []) => .error .malformed
  else if isBlankNext behind then spaced (⟨none, openTag⟩, behind)
  else
    let word := behind.takeWhile fun c => !isSpaceNext [c]
    let (mark, rest) ← if word.elem ('!' : CodePoint) then handle t else .ok (openTag, behind)
    let (name, rest) ← body rest
    spaced (⟨some mark, name⟩, rest)

end Tag

namespace Directive

/-- A number in decimal digits, and the rest. -/
def number (t : Text) : Except Error (Nat × Text) :=
  let (digits, rest) := t.span (·.between '0' '9')
  let value := digits.foldl (fun n c => n * 10 + c.asciiDigit?.getD 0) 0
  if digits.isEmpty then .error .malformed else .ok (value, rest)

/-- The version in a directive, and the rest. -/
def readVersion (t : Text) : Except Error (Directive × Text) := do
  match ← number (dropSpaces t) with
  | (major, c :: rest) =>
    if c = '.' then
      let (_, rest) ← number rest
      Tag.spaced (.version major, rest)
    else .error .malformed
  | (_, []) => .error .malformed

/-- The meaning of a handle in a directive, and the rest. -/
def readMeaning (t : Text) : Except Error (Directive × Text) := do
  match ← Tag.handle (dropSpaces t) with
  | (name, c :: rest) =>
    if c = ' ' then
      let (meaning, rest) ← Tag.body (dropSpaces rest)
      Tag.spaced (.handle name meaning, rest)
    else .error .malformed
  | (_, []) => .error .malformed

/-- A directive behind its percent sign, and what follows its line. -/
def read (t : Text) : Except Error (Directive × Text) := do
  match Tag.name? t with
  | none => .error .malformed
  | some (name, rest) =>
    let ((), rest) ← Tag.spaced ((), rest)
    let (directive, rest) ←
      if name = "YAML" then readVersion rest
      else if name = "TAG" then readMeaning rest
      else .ok (other, rest.dropWhile fun c => !isBreak c)
    match lineEnd? rest with
    | some rest => return (directive, rest)
    | none => .error .malformed

end Directive

end SongSheet.Yaml
