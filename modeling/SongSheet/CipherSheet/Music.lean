import SongSheet.Score
import SongSheet.Pitch
import SongSheet.CipherSheet.Comment
import SongSheet.Text.Digit

/-!
# The music of cipher sheets

The form of a cipher sheet without comments and blanks:

    [1=C,4/4,120]1,1,5,5,6,6,5*2,4&6-,0/2,3+#,

The bracket names the key, a metre that is not used, and the tempo. The beats follow, separated by
commas; a last comma may end them. A beat is notes joined by `&` and then steps of its rate, `*` or
`/` with a count. A note is a digit and then modifiers, `+`, `-`, `#` or `b`, each with an optional
count.

`Music.ofText?` takes a text apart by this form, and `Music.toBeats` gives it its meaning. Digits
may be those of any script.
-/

set_option autoImplicit false

namespace SongSheet.CipherSheet

/-- A mark and the digits after it. -/
structure Counted where
  mark : CodePoint
  digits : Text
  deriving DecidableEq, Repr

/-- A digit and its modifiers. -/
structure Note where
  digit : CodePoint
  modifiers : List Counted
  deriving DecidableEq, Repr

/-- Notes that sound together and the steps of their rate. -/
structure Chord where
  notes : List Note
  steps : List Counted
  deriving DecidableEq, Repr

/-- A cipher sheet, taken apart. -/
structure Music where
  letter : CodePoint
  accidental : Option CodePoint
  bpm : Text
  chords : List Chord
  deriving DecidableEq, Repr

/-! ## Form -/

/-- The text before the first mark, and every mark with what follows up to the next. -/
def cutAtMarks (isMark : CodePoint → Bool) : Text → Text × List Counted
  | [] => ([], [])
  | c :: t =>
    let (before, counted) := cutAtMarks isMark t
    if isMark c then ([], ⟨c, before⟩ :: counted) else (c :: before, counted)

/-- A mark that changes the pitch of a note. -/
def isModifier (c : CodePoint) : Bool := c = '+' || c = '-' || c = '#' || c = 'b'

/-- A mark that changes the length of a beat. -/
def isStep (c : CodePoint) : Bool := c = '*' || c = '/'

/-- Decimal digits only. -/
def areDigits (t : Text) : Bool := t.all (·.isDigit)

/-- A numeral: decimal digits, and at least one. -/
def isNumeral (t : Text) : Bool := !t.isEmpty && areDigits t

/-- The note that a text writes. -/
def Note.ofText? : Text → Option Note
  | [] => none
  | digit :: t =>
    let (before, modifiers) := cutAtMarks isModifier t
    if digit.isDigit && before.isEmpty && modifiers.all (areDigits ·.digits) then
      some ⟨digit, modifiers⟩
    else none

/-- The chord that a text writes. -/
def Chord.ofText? (t : Text) : Option Chord := do
  let (before, steps) := cutAtMarks isStep t
  let notes ← (Text.splitOn '&' before).mapM Note.ofText?
  if steps.all (isNumeral ·.digits) then return ⟨notes, steps⟩ else none

/-- The chords that a text writes: at least one, and perhaps a comma at the end. -/
def chords? (t : Text) : Option (List Chord) :=
  let pieces := Text.splitOn ',' t
  let pieces := if pieces.getLast? = some [] then pieces.dropLast else pieces
  if pieces.isEmpty then none else pieces.mapM Chord.ofText?

/-- The letter of a key and its accidental. -/
def key? : Text → Option (CodePoint × Option CodePoint)
  | [letter] => if letter.between 'A' 'G' then some (letter, none) else none
  | [letter, accidental] =>
    if letter.between 'A' 'G' && (accidental = '#' || accidental = 'b') then
      some (letter, some accidental)
    else none
  | _ => none

/-- Whether a text writes a metre. -/
def isMetre (t : Text) : Bool :=
  match Text.splitOn '/' t with
  | [count, unit] => isNumeral count && isNumeral unit
  | _ => false

/-- The music that a text without blanks writes. -/
def Music.ofText? (t : Text) : Option Music := do
  let t ← Text.after? "[1=" t
  let (bracket, body) ← Text.cut? "]" t
  match Text.splitOn ',' bracket with
  | [key, metre, bpm] =>
    let (letter, accidental) ← key? key
    if isMetre metre && isNumeral bpm then return ⟨letter, accidental, bpm, ← chords? body⟩
    else none
  | _ => none

/-! ## Meaning -/

/-- The letters of the naturals, from the first degree of the scale without accidentals. -/
def letters : Text := "CDEFGAB"

/-- The pitch of the tonic. -/
def Music.keyNote (m : Music) : Int :=
  let natural := Pitch.ofDegree (letters.idxOf m.letter)
  if m.accidental = some '#' then natural + 1
  else if m.accidental = some 'b' then natural - 1
  else natural

/-- What a modifier adds to a tone; without a count it counts once. -/
def modifierShift (m : Counted) : Int :=
  let count : Int := if m.digits.isEmpty then 1 else Text.readNat m.digits
  if m.mark = '+' then count * 12
  else if m.mark = '-' then -(count * 12)
  else if m.mark = '#' then count
  else -count

/-- The tone of a note; the digit zero is a rest. -/
def Note.tone (n : Note) : Except SheetError (Option Int) :=
  let degree : Nat := n.digit.digit?.getD 0
  if 7 < degree then .error (.cipherDegree n.digit)
  else if degree = 0 then .ok none
  else .ok (some (Pitch.ofDegree (degree - 1) + (n.modifiers.map modifierShift).foldr (· + ·) 0))

/-- A rate after one more step. -/
def stepRate (rate : Rate) (step : Counted) : Except SheetError Rate :=
  let count : Nat := Text.readNat step.digits
  if count = 0 then .error (.cipherRate (step.mark :: step.digits))
  else if step.mark = '/' then rate.withDen (rate.den * count)
  else .ok (rate.withNum (rate.num * count))

/-- The beat of a chord. A tone that comes twice sounds once. -/
def Chord.toBeat (c : Chord) : Except SheetError Beat := do
  let rate ← c.steps.foldlM stepRate (Rate.ofInt 1)
  let tones ← c.notes.mapM Note.tone
  return { rate, tones := (tones.filterMap id).eraseDups }

/-- The tempo of the music. -/
def Music.tempo (m : Music) : Except SheetError Int :=
  Score.checkBpm (.int (Text.readNat m.bpm))

/-- The beats of the music. -/
def Music.toBeats (m : Music) : Except SheetError (List Beat) :=
  m.chords.mapM Chord.toBeat

end SongSheet.CipherSheet
