import SongSheet.Midi.Track

/-!
# MIDI files

A track as the octets of a Standard MIDI File with one track.

A note message leaves out its first octet when it is that of the note message before it; any other
message in between makes it say it again. The end of the track is a message of its own.
-/

set_option autoImplicit false

namespace SongSheet.Midi

/-- Why a track is not written. -/
inductive FileError where
  /-- The ticks to the beat do not fit in two octets. -/
  | ticksRange
  /-- The name has a code point that takes more than one octet. -/
  | nameEncoding
  /-- A message would come before the one in front of it. -/
  | negativeDelta
  deriving DecidableEq, Repr

/-- The lowest octets of a number, from high to low. -/
def bigEndian : Nat → Nat → List UInt8
  | 0, _ => []
  | width + 1, n => bigEndian width (n / 256) ++ [n.toUInt8]

/-- The groups of seven bits of a number, from high to low, each marked as followed by another. -/
def higherGroups (n : Nat) : List UInt8 :=
  if n = 0 then [] else higherGroups (n / 128) ++ [(n % 128 + 128).toUInt8]

/-- A number of any size: groups of seven bits, of which only the last has no mark. -/
def variableLength (n : Nat) : List UInt8 := higherGroups (n / 128) ++ [(n % 128).toUInt8]

/-- The octets of ASCII letters. -/
def ascii (s : String) : List UInt8 := s.toList.map fun c => c.toNat.toUInt8

/-- A chunk of a file: its type, its length and its content. -/
def chunk (type : String) (content : List UInt8) : List UInt8 :=
  ascii type ++ bigEndian 4 content.length ++ content

/-- The chunk at the front of a file: one track, so many ticks to the beat. -/
def headerChunk (ticksPerBeat : Int) : Except FileError (List UInt8) :=
  if ticksPerBeat < -0x8000 ∨ 0x7FFF < ticksPerBeat then .error .ticksRange
  else .ok (chunk "MThd"
    (bigEndian 2 1 ++ bigEndian 2 1 ++ bigEndian 2 (ticksPerBeat % 0x10000).toNat))

/-- A message that says something about the track: its kind, its length and its content. -/
def metaMessage (kind : UInt8) (content : List UInt8) : List UInt8 :=
  [0xFF, kind] ++ variableLength content.length ++ content

/-- The octets of a name, one to the code point. -/
def nameOctets (name : Text) : Except FileError (List UInt8) :=
  if name.all (·.val < 0x100) then .ok (name.map (·.val.toUInt8)) else .error .nameEncoding

/-- The first octet of the note messages that have one. -/
def noteStatus? : Message → Option UInt8
  | .noteOn .. => some 0x90
  | .noteOff _ => some 0x80
  | _ => none

/-- The octets of a message but for the first one of a note message. -/
def content : Message → Except FileError (List UInt8)
  | .trackName name => return metaMessage 0x03 (← nameOctets name)
  | .tempo value => return metaMessage 0x51 (bigEndian 3 value)
  | .noteOn pitch velocity => return [pitch.toUInt8, velocity.toUInt8]
  | .noteOff pitch => return [pitch.toUInt8, 0]

/-- The octets of events; `running` is the first octet of the note message just before. -/
def eventOctets (running : Option UInt8) : List Event → Except FileError (List UInt8)
  | [] => return variableLength 0 ++ metaMessage 0x2F []
  | ⟨delta, message⟩ :: rest => do
    if delta < 0 then .error .negativeDelta
    else
      let content ← content message
      let status := noteStatus? message
      let said : List UInt8 := if status = running then [] else status.toList
      return variableLength delta.toNat ++ said ++ content ++ (← eventOctets status rest)

/-- The file of a track. -/
def file (ticksPerBeat : Int) (track : List Event) : Except FileError (List UInt8) := do
  let header ← headerChunk ticksPerBeat
  return header ++ chunk "MTrk" (← eventOctets none track)

end SongSheet.Midi
