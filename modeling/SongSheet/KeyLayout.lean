import SongSheet.Pitch
import SongSheet.Json.Reader

/-!
# Key layouts

The keys of an instrument from low to high. They follow each other by semitones or by naturals,
from a first note on. What a key is called depends on the format; any JSON value may be a label.
-/

set_option autoImplicit false

namespace SongSheet

/-- The keys of an instrument. -/
structure KeyLayout where
  keys : List Json := []
  /-- The number of the first key: a pitch if the keys are semitones apart, else a degree. -/
  keyOffset : Int := 0
  /-- Neighbours are semitones apart, not degrees. -/
  semitone : Bool := false

namespace KeyLayout

/-- How many keys there are. -/
def keyCount (l : KeyLayout) : Nat := l.keys.length

/-- The pitch of the key at an index, also past the ends. -/
def keyPitch (l : KeyLayout) (index : Int) : Int :=
  let note := index + l.keyOffset
  if l.semitone then note else Pitch.ofDegree note

/-- The pitches of the keys, from low to high. -/
def pitches (l : KeyLayout) : List Int :=
  (List.range l.keyCount).map fun (i : Nat) => l.keyPitch i

/-- The layout that a JSON object describes. -/
def ofJson (value : Json) : Except SheetError KeyLayout :=
  match value with
  | .object fields =>
    match Json.field "keys" fields with
    | .array keys =>
      match Json.field "keyOffset" fields with
      | .int keyOffset =>
        match Json.field "semitone" fields with
        | .bool semitone => .ok { keys, keyOffset, semitone }
        | _ => .error .layoutSemitone
      | _ => .error .layoutOffset
    | _ => .error .layoutKeys
  | _ => .error .layoutShape

/-- The layout that a text describes. -/
def read (t : Text) : Except SheetError KeyLayout :=
  match Json.read t with
  | .ok value => ofJson value
  | .error e => .error (.layoutJson e)

end KeyLayout

end SongSheet
