import SongSheet.SheetError

/-!
# Pitches

A pitch is a number of semitones, twelve to the octave. Seven of the twelve are naturals, the white
keys, and five are accidentals. Counting the naturals alone, seven to the octave, numbers them by
degree: `Pitch.ofDegree` and `Pitch.degree` go back and forth, below zero too.
-/

set_option autoImplicit false

namespace SongSheet.Pitch

/-- The naturals of the octave that starts at zero. -/
def naturals : List Int := [0, 2, 4, 5, 7, 9, 11]

/-- The accidentals of the octave that starts at zero. -/
def accidentals : List Int := [1, 3, 6, 8, 10]

/-- A white key. -/
def isNatural (pitch : Int) : Bool := naturals.elem (pitch % 12)

/-- A black key. -/
def isAccidental (pitch : Int) : Bool := accidentals.elem (pitch % 12)

/-- The pitch of the natural with a number. -/
def ofDegree (degree : Int) : Int :=
  naturals.getD (degree % 7).toNat 0 + degree / 7 * 12

/-- The number of the natural at a pitch; an accidental has none. -/
def degree (pitch : Int) : Except SheetError Int :=
  if isNatural pitch then .ok (naturals.idxOf (pitch % 12) + pitch / 12 * 7)
  else .error (.notNatural pitch)

end SongSheet.Pitch
