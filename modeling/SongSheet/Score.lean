import SongSheet.Rate

/-!
# Scores

What every sheet is read into and written from: the song's metadata, the key, the tempo, and the
beats one after the other. A beat sounds its tones together for its rate; without tones it is a
rest. Tones count from the key note.

The metadata of a score are JSON values, as an event sheet may put any of them there.
-/

set_option autoImplicit false

namespace SongSheet

/-- Tones that sound together, or a rest, and how long. -/
structure Beat where
  rate : Rate := default
  tones : List Int := []
  deriving DecidableEq

/-- A song. -/
structure Score where
  name : Json := .string []
  author : Json := .string []
  transcriber : Json := .string []
  /-- The pitch of the tonic; only its place in the octave is heard. -/
  keyNote : Int := 0
  /-- Reference beats to the minute. -/
  bpm : Int := 0
  beats : List Beat := []
  deriving DecidableEq

namespace Beat

/-- A beat without a tone. -/
def isRest (b : Beat) : Bool := b.tones.isEmpty

end Beat

namespace Score

/-- The pitch of every sounding tone, in order. -/
def pitches (s : Score) : List Int :=
  s.beats.flatMap fun b => b.tones.map (· + s.keyNote)

/-- Milliseconds to the minute. -/
def msPerMinute : Int := 60000

/-- The tempo that a value gives. -/
def checkBpm (value : Json) : Except SheetError Int :=
  match value.asInt? with
  | none => .error .bpmType
  | some n => if n ≤ 0 then .error .bpmRange else .ok n

/-- The place in the octave that a value gives. -/
def checkPitchLevel (value : Json) : Except SheetError Int :=
  match value.asInt? with
  | none => .error .pitchLevelType
  | some n => if n < 0 ∨ 11 < n then .error .pitchLevelRange else .ok n

end Score

/-- The integer that a value starts with when it is shown; an integer is itself. -/
def Json.leadingInt? : Json → Option Int
  | .int n => some n
  | .bool _ => none
  | value => Text.leadingInt? value.display

/-- An integer that may be missing, as a value. -/
def Json.ofInt? : Option Int → Json
  | some n => .int n
  | none => .null

end SongSheet
