import SongSheet.Encoding.Front

/-!
# Sets of characters

The standard sets of characters of East Asia number their characters by two octets. A set is kept as
runs of characters whose numbers follow each other.

A table of a set has a line for every run. A line starts with four hexadecimal digits, the number of
its first character, and a space. Then come the characters; where these follow each other too, the
line has a plus sign and their count behind the number, and only the first of them, as a number.
-/

set_option autoImplicit false

namespace SongSheet

/-- A set of characters: runs of characters, each with the number of its first one. -/
abbrev Charset := List (Nat × Text)

namespace Charset

/-- A line of a table. -/
def runOfLine (line : Text) : Nat × Text :=
  match Text.cut? " " line with
  | none => (0, [])
  | some (head, body) =>
    match Text.cut? "+" head with
    | none => (Text.hexNumber head, body)
    | some (first, count) =>
      let start := Text.hexNumber body
      (Text.hexNumber first, (List.range (Text.hexNumber count)).map fun n => .ofNat (start + n))

/-- The set of a table. -/
def ofTable (table : String) : Charset := (Text.splitOn '\n' table).map runOfLine

/-- The character with a number. -/
def find? (s : Charset) (number : Nat) : Option CodePoint :=
  s.findSome? fun (first, run) => if first ≤ number then run[number - first]? else none

/-- The number of two octets. -/
def number (a b : UInt8) : Nat := a.toNat * 256 + b.toNat

/-- The character with the number of two octets, as a text. -/
def text? (s : Charset) (a b : UInt8) : Option Text := (s.find? (number a b)).map ([·])

/-- The character in a row and a cell that two octets give with their top bits set, as a text. -/
def high? (s : Charset) (a b : UInt8) : Option Text :=
  if 0x80 ≤ a.toNat ∧ 0x80 ≤ b.toNat then (s.find? (number a b - 0x8080)).map ([·]) else none

end Charset

end SongSheet
