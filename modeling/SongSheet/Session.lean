import SongSheet.Registry

/-!
# Sessions

Working on one score: it is read, changed, and written, and the sheet that was written last can be
read again. A step that fails leaves the session as it was, but for the one case that
`Session.setRate` describes.
-/

set_option autoImplicit false

namespace SongSheet

/-- A score at work. -/
structure Session where
  registry : Registry
  score : Score := {}
  /-- The sheet that was written last. -/
  text : Text := []

namespace Session

/-- Another score takes the place of the one at work. -/
def withScore (s : Session) (score : Score) : Session := { s with score }

/-- Reads a text of any format. -/
def read (s : Session) (fileName : Option Text) (t : Text) : Except ConversionError Session :=
  (s.registry.read fileName t).map s.withScore

/-- Reads the sheet that was written last. -/
def reread (s : Session) (fileName : Option Text) : Except ConversionError Session :=
  s.read fileName s.text

/-- Writes the score in the format of a label. -/
def write (s : Session) (label : Text) (keyLayout : Option Text) :
    Except ConversionError Session := do
  return { s with text := (← s.registry.write label keyLayout s.score).text }

/-- Converts a text and leaves the score alone. -/
def convert (s : Session) (label : Text) (fileName keyLayout : Option Text) (t : Text) :
    Except ConversionError Session := do
  return { s with text := ← s.registry.convert label fileName keyLayout t }

/-- One more beat at the end of the score. -/
def append (s : Session) (beat : Beat) : Session :=
  s.withScore { s.score with beats := s.score.beats ++ [beat] }

/-- Why a rate is not changed. -/
inductive RateError where
  /-- The score has no beat at the index. -/
  | noBeat
  | sheet (error : SheetError)
  deriving DecidableEq

/-- The place of a beat by an index, which counts from the end below zero. -/
def beatAt? (s : Session) (index : Int) : Option Nat :=
  let count := s.score.beats.length
  let place := if index < 0 then index + count else index
  if 0 ≤ place ∧ place < count then some place.toNat else none

/-- Sets the numerator of a beat's rate, then its denominator. A denominator of zero is refused when
the numerator is set already. -/
def setRate (s : Session) (index num den : Int) : Session × Except RateError Unit :=
  match s.beatAt? index with
  | none => (s, .error .noBeat)
  | some place =>
    let change (f : Rate → Rate) : Session :=
      s.withScore { s.score with
        beats := s.score.beats.modify place fun beat => { beat with rate := f beat.rate } }
    if h : den = 0 then (change (·.withNum num), .error (.sheet .zeroDenominator))
    else (change fun _ => ⟨num, den, h⟩, .ok ())

/-- Brings the rate of every beat to lowest terms. -/
def reduceRates (s : Session) : Session :=
  s.withScore { s.score with
    beats := s.score.beats.map fun beat => { beat with rate := beat.rate.reduce } }

end Session

end SongSheet
