import SongSheet.Placement
import SongSheet.FileName
import SongSheet.Text.Digit

/-!
# Letter sheets

A header line, then keys and dots:

    <DontCopyThisLine> 480 0 16 author transcriber
    A1 . B1C3 . . A2 . .

A key is a row, A to C, and a column, 1 to 5. Adjacent keys form a chord. A chord lasts one unit and
every dot adds one. The tempo in the header is that of a single unit, and the last chord sounds for
four units at least.

Reading goes through two steps: the marks of the key lines, then `gather`, which puts the marks
together into chords with the dots after them.
-/

set_option autoImplicit false

namespace SongSheet.LetterSheet

/-- What the header starts with. -/
def mark : Text := "<DontCopyThisLine>"

/-- The keys of a row. -/
def columns : Nat := 5

/-- The dots after the last chord count as this many at least. -/
def tailDots : Nat := 3

/-! ## Reading -/

/-- What may stand on a key line. -/
inductive Mark where
  | key (pitch : Int)
  | dot
  | blank
  deriving DecidableEq, Repr

/-- The number of a row. -/
def row? (c : CodePoint) : Option Nat := if c.between 'A' 'C' then some (c.val - 65) else none

/-- The number of a column. -/
def column? (c : CodePoint) : Option Nat := if c.between '1' '5' then some (c.val - 49) else none

/-- The marks of a text, or what is left of it from the first code point that cannot stand there: a
row without its column breaks at the code point in the column's place, or at the row itself when the
text ends there. -/
def marks : Text → Except Text (List Mark)
  | [] => .ok []
  | c :: t =>
    if c = '.' then (marks t).map (.dot :: ·)
    else
      match row? c with
      | none => if c.isBlank then (marks t).map (.blank :: ·) else .error (c :: t)
      | some row =>
        match t with
        | [] => .error [c]
        | d :: u =>
          match column? d with
          | none => .error (d :: u)
          | some column =>
            (marks u).map (.key (Pitch.ofDegree (row * columns + column : Nat)) :: ·)

/-- A chord and the dots after it. -/
structure Chord where
  tones : List Int
  dots : Nat
  deriving DecidableEq, Repr

/-- Marks put together. -/
structure Gathered where
  /-- The dots before the first chord. -/
  lead : Nat := 0
  /-- The first mark is a key, so that a key before it joins its chord. -/
  opensWithKey : Bool := false
  chords : List Chord := []
  deriving DecidableEq, Repr

/-- The chords of a sequence of marks: maximal runs of keys with the dots up to the next run. -/
def gather : List Mark → Gathered
  | [] => {}
  | .dot :: rest =>
    let g := gather rest
    { g with lead := g.lead + 1, opensWithKey := false }
  | .blank :: rest => { gather rest with opensWithKey := false }
  | .key pitch :: rest =>
    let g := gather rest
    match g.opensWithKey, g.chords with
    | true, chord :: chords =>
      { g with chords := { chord with tones := pitch :: chord.tones } :: chords }
    | _, chords => { opensWithKey := true, chords := ⟨[pitch], g.lead⟩ :: chords }

/-- A chord as a beat. -/
def Chord.toBeat (c : Chord) (dots : Nat) : Beat :=
  { rate := Rate.ofInt (1 + dots), tones := c.tones.eraseDups }

/-- The beats of chords in order. -/
def chordBeats : List Chord → List Beat
  | [] => []
  | [c] => [c.toBeat (max tailDots c.dots)]
  | c :: rest => c.toBeat c.dots :: chordBeats rest

/-- The beats of a sequence of marks. Dots without a chord are nothing. -/
def beats (gathered : Gathered) : List Beat :=
  match gathered.chords with
  | [] => []
  | chords =>
    if gathered.lead = 0 then chordBeats chords
    else { rate := Rate.ofInt gathered.lead, tones := [] } :: chordBeats chords

/-- The fault at which the key lines break off: their lines are counted after the header's. -/
def fault (keyLines left : Text) : SheetError :=
  let index := keyLines.length - left.length
  let (line, column) := keyLines.lineColumn index
  .letterKey index (line + 1) column left.head?

/-- The beats of the key lines. -/
def readKeys (keyLines : Text) : Except SheetError (List Beat) :=
  match marks keyLines with
  | .ok ms => .ok (beats (gather ms))
  | .error left => .error (fault keyLines left)

/-- The header line after its mark, and the key lines. -/
def splitHeader (t : Text) : Except SheetError (Text × Text) :=
  let t := Text.unixLines (Text.trim t)
  if t.isEmpty then .error .letterEmpty
  else if !Text.contains mark t then .error .letterMark
  else
    match Text.cut? ">" t with
    | none => .error .letterMark
    | some (_, rest) =>
      match Text.cut? "\n" rest with
      | none => .error .letterHeader
      | some (header, keyLines) => .ok (Text.trim header, keyLines)

/-- The score that a header announces, without its beats. -/
def readHeader (header fileName : Text) : Except SheetError Score := do
  let words := Text.words header
  let word (i : Nat) : Text := words.getD i []
  let keyNote ← Score.checkPitchLevel (Json.ofInt? (Text.leadingInt? (word 1)))
  let bpm ← Score.checkBpm (Json.ofInt? (Text.leadingInt? (word 0)))
  return {
    name := .string (FileName.stem [] fileName)
    author := .string (word 3)
    transcriber := .string (word 4)
    keyNote
    bpm }

/-- The score of a letter sheet. It is named after its file. -/
def read (fileName : Option Text) (t : Text) : Except SheetError Score := do
  let (header, keyLines) ← splitHeader t
  let fileName : Text :=
    match fileName with
    | none | some [] => "Unknown"
    | some name => name
  let score ← readHeader header fileName
  return { score with beats := ← readKeys keyLines }

/-! ## Writing -/

/-- A natural as a row and a column. -/
def key (tone : Int) : Except SheetError Text := do
  let note ← Pitch.degree tone
  if note < 0 ∨ 3 * columns ≤ note then .error (.letterNote note)
  else
    return [.ofNat (65 + note.toNat / columns), .ofNat (49 + note.toNat % columns)]

/-- The units that one reference beat is divided into: the least number that makes every rate
whole. -/
def unitsPerBeat (beats : List Beat) : Nat :=
  beats.foldl (fun units b => Nat.lcm units b.rate.reduce.den.natAbs) 1

/-- The length of a rate in units. -/
def units (unitsPerBeat : Nat) (rate : Rate) : Except SheetError Int :=
  let whole := (rate.withNum (rate.num * unitsPerBeat)).reduce
  if whole.den = 1 then .ok whole.num else .error (.letterRate rate.num rate.den)

/-- The words of a beat: its chord, then a dot for every unit past the first, and for a rest a dot
for every unit. A beat without a unit has no word. -/
def beatWords (unitsPerBeat : Nat) (beat : Beat) : Except SheetError (List Text) := do
  let length ← units unitsPerBeat beat.rate
  if length ≤ 0 then return []
  else
    let dots (n : Int) : List Text := List.replicate n.toNat "."
    if beat.tones.isEmpty then return dots length
    else
      let keys ← beat.tones.mapM key
      return keys.flatten :: dots (length - 1)

/-- The header line of a score. -/
def header (score : Score) (unitsPerBeat : Nat) : Text :=
  Text.join " " [mark, Text.ofInt (score.bpm * unitsPerBeat), Text.ofInt (score.keyNote % 12), "16",
    score.author.display, score.transcriber.display]

/-- The letter sheet of a score. -/
def write (score : Score) : Except SheetError Text := do
  let unitsPerBeat := unitsPerBeat score.beats
  let words ← score.beats.mapM (beatWords unitsPerBeat)
  return header score unitsPerBeat ++ ("\n" : Text)
    ++ words.flatten.flatMap fun word => word ++ (" " : Text)

end SongSheet.LetterSheet
