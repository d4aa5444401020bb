import SongSheet.Score

/-!
# MIDI tracks

A score as the messages of one track: its name, its tempo, and two messages for every tone, one when
it begins and one when it ends.

Positions are exact sums of rates; each is rounded to a tick on its own, so rounding never adds up.
A beat that is left without a tick between its ends makes no sound. At one tick the tones that end
come before those that begin.
-/

set_option autoImplicit false

namespace SongSheet.Midi

/-- A message of a track. -/
inductive Message where
  | trackName (name : Text)
  /-- Microseconds to the beat. -/
  | tempo (value : Nat)
  | noteOn (pitch velocity : Nat)
  | noteOff (pitch : Nat)
  deriving DecidableEq, Repr

/-- A message and the ticks since the one before it. -/
structure Event where
  delta : Int
  message : Message
  deriving DecidableEq, Repr

/-- How scores are written as tracks. -/
structure Exporter where
  /-- The MIDI pitch of pitch zero. -/
  basePitch : Int := 60
  /-- How hard tones are struck. -/
  velocity : Int := 80
  ticksPerBeat : Int := 480
  deriving DecidableEq, Repr

/-- Why a score gives no track. -/
inductive TrackError where
  | sheet (error : SheetError)
  /-- The name of the score is not a text. -/
  | nameType
  /-- A score at no beats a minute has no tempo. -/
  | tempoZero
  /-- The number of beats a minute is too large to divide by. -/
  | tempoTooLarge
  /-- The tempo does not fit in three octets. -/
  | tempoRange
  /-- The velocity does not fit in seven bits. -/
  | velocityRange
  deriving DecidableEq

/-- Microseconds to the minute. -/
def microsecondsPerMinute : Int := 60000000

/-- Microseconds to the beat, to the nearest one. -/
def tempo (bpm : Int) : Except TrackError Nat :=
  if bpm = 0 then .error .tempoZero
  else if Binary64.isBeyond bpm then .error .tempoTooLarge
  else
    let value := roundHalfEven (microsecondsPerMinute * bpm.sign) bpm.natAbs
    if 0 ≤ value ∧ value < Nat.pow 2 24 then .ok value.toNat else .error .tempoRange

/-- The messages before the first tone. -/
def heading (score : Score) : Except TrackError (List Event) := do
  let named : List Event ←
    match score.name with
    | .string name => pure (if name.isEmpty then [] else [⟨0, .trackName name⟩])
    | name => if name.isSet then .error .nameType else pure []
  return named ++ [⟨0, .tempo (← tempo score.bpm)⟩]

namespace Exporter

/-- The tick of a position in beats. -/
def tick (e : Exporter) (position : Rat) : Int :=
  let exact := position * e.ticksPerBeat
  roundHalfEven exact.num exact.den

/-- The messages of one tone that sounds from a tick to another. -/
def toneMessages (e : Exporter) (keyNote start stop tone : Int) :
    Except TrackError (List (Int × Message)) :=
  let pitch := e.basePitch + keyNote + tone
  if pitch < 0 ∨ 127 < pitch then .error (.sheet (.midiPitch pitch))
  else if e.velocity < 0 ∨ 127 < e.velocity then .error .velocityRange
  else .ok [(start, .noteOn pitch.toNat e.velocity.toNat), (stop, .noteOff pitch.toNat)]

/-- The messages of beats that follow each other from a position on, each with its tick. -/
def messagesFrom (e : Exporter) (keyNote : Int) (position : Rat) :
    List Beat → Except TrackError (List (Int × Message))
  | [] => .ok []
  | beat :: rest => do
    let after := position + beat.rate.value
    let start := e.tick position
    let stop := e.tick after
    let own ←
      if stop ≤ start then pure [] else beat.tones.mapM (e.toneMessages keyNote start stop)
    return own.flatten ++ (← messagesFrom e keyNote after rest)

/-- Whether a tone sounds in beats that follow each other from a position on. -/
def sounds (e : Exporter) (position : Rat) : List Beat → Bool
  | [] => false
  | beat :: rest =>
    let after := position + beat.rate.value
    (e.tick position < e.tick after && !beat.tones.isEmpty) || e.sounds after rest

/-- A message of a tone that begins. -/
def begins : Message → Bool
  | .noteOn .. => true
  | _ => false

/-- The order of messages: by tick, and at one tick those of tones that end come first. -/
def precedes (a b : Int × Message) : Bool :=
  a.1 < b.1 || (a.1 = b.1 && (!begins a.2 || begins b.2))

/-- Messages with the ticks between them, from a tick on. -/
def spaced (current : Int) : List (Int × Message) → List Event
  | [] => []
  | (tick, message) :: rest => ⟨tick - current, message⟩ :: spaced tick rest

/-- The track of a score. -/
def track (e : Exporter) (score : Score) : Except TrackError (List Event) := do
  let heading ← heading score
  let messages ← e.messagesFrom score.keyNote 0 score.beats
  return heading ++ spaced 0 (sortBy precedes messages)

end Exporter

end SongSheet.Midi
