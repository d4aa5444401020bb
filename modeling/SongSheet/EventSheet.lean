import SongSheet.Arrangement
import SongSheet.Placement

/-!
# Event sheets

A song as a JSON array whose first element holds the metadata and the key presses, each with a time
in milliseconds:

    [{"name": "…", "bpm": 120, "pitchLevel": 0, "bitsPerPage": 16,
      "songNotes": [{"time": 0, "key": "1Key0"}, …]}]

The instrument has the fifteen naturals from the tonic up. Presses at one time form a chord; the
gap to the next time is the chord's rate, exactly, in sixty-thousandths of what the tempo makes of a
millisecond. Nothing says how long the last chord sounds, so it gets four beats.
-/

set_option autoImplicit false

namespace SongSheet.EventSheet

/-- Fifteen naturals; their labels are not used. -/
def layout : KeyLayout := { keys := List.replicate 15 .null }

/-! ## Reading -/

/-- The number after the first `Key` that has one. -/
def keyNumber? : Text → Option Nat
  | [] => none
  | c :: t =>
    match Text.after? "Key" (c :: t) with
    | some rest =>
      let digits := (Text.takeDigits rest).1
      if digits.isEmpty then keyNumber? t else some (Text.readNat digits)
    | none => keyNumber? t

/-- The key that a label names. -/
def checkKey (label : Json) : Except SheetError Nat :=
  match label with
  | .string t =>
    match keyNumber? t with
    | some key => if key < layout.keyCount then .ok key else .error (.eventKey label)
    | none => .error (.eventKey label)
  | _ => .error (.eventKey label)

/-- The time that a value gives; a whole number may be written with a point. -/
def checkTime (value : Json) : Except SheetError Int :=
  let whole? : Option Int :=
    match value with
    | .int n => some n
    | .float x => x.toInt?
    | _ => none
  match whole? with
  | none => .error .eventTimeType
  | some time => if time < 0 then .error .eventTimeRange else .ok time

/-- The first sheet of a document. -/
def sheetFields (document : Json) : Except SheetError (List (Text × Json)) :=
  match document with
  | .array [] => .error .eventNone
  | .array (.object fields :: _) =>
    if (Json.field "isEncrypted" fields).isSet then .error .eventEncrypted else .ok fields
  | _ => .error .eventShape

/-- The fields of every press. -/
def pressFields (value : Json) : Except SheetError (List (List (Text × Json))) :=
  match value with
  | .array presses => presses.mapM fun press =>
    match press with
    | .object fields => .ok fields
    | _ => .error .eventNote
  | _ => .error .eventNotes

/-- Presses gathered by time, the earliest first: the labels at each time in order. -/
def chords (presses : List (Int × Json)) : List (Int × List Json) :=
  (sortBy (fun a b => a.1 ≤ b.1) (gatherBy (·.1) presses)).map fun (time, chord) =>
    (time, chord.map (·.2))

/-- The beats of chords that are in order: `tones` have sounded since `since`. -/
def beats (bpm : Int) (since : Int) (tones : List Int) : List (Int × List Int) → List Beat
  | [] => [{ rate := Rate.ofInt 4, tones }]
  | (time, chord) :: rest =>
    let gap := time - since
    if gap = 0 then beats bpm time chord rest
    else
      { rate := { num := gap * bpm, den := Score.msPerMinute }, tones } :: beats bpm time chord rest

/-- The score that a document describes. -/
def ofJson (document : Json) : Except SheetError Score := do
  let fields ← sheetFields document
  let keyNote ← Score.checkPitchLevel (Json.field "pitchLevel" fields)
  let bpm ← Score.checkBpm (Json.field "bpm" fields)
  let presses ← pressFields (Json.field "songNotes" fields)
  let timed ← presses.mapM fun press => do
    return (← checkTime (Json.field "time" press), Json.field "key" press)
  let sounding ← (chords timed).mapM fun (time, labels) => do
    let keys ← labels.mapM checkKey
    return (time, keys.map fun (key : Nat) => Pitch.ofDegree key)
  return {
    name := (Json.field "name" fields).orElse (.string "Unknown")
    author := (Json.field "author" fields).orElse (.string [])
    transcriber := (Json.field "transcribedBy" fields).orElse (.string [])
    keyNote
    bpm
    beats := beats bpm 0 [] sounding }

/-- The score of an event sheet. -/
def read (t : Text) : Except SheetError Score :=
  match Json.read t with
  | .ok document => ofJson document
  | .error e => .error (.eventJson e)

/-! ## Writing -/

/-- The label of a key: the first of a chord is in layer one and the others are in layer two. -/
def keyLabel (isFirst : Bool) (key : Nat) : Text :=
  (if isFirst then ("1Key" : Text) else "2Key") ++ Text.ofNat key

/-- One key press. -/
def press (time : Int) (isFirst : Bool) (key : Nat) : Json :=
  .object [("time", .int time), ("key", .string (keyLabel isFirst key))]

/-- The presses of one stroke, from the highest key down. -/
def chordPresses (time : Int) (keys : List Nat) : List Json :=
  match sortBy (fun a b => b ≤ a) keys with
  | [] => []
  | key :: others => press time true key :: others.map (press time false)

/-- The presses of strokes that follow each other from a time on. -/
def presses (time : Int) : List Stroke → List Json
  | [] => []
  | s :: rest => chordPresses time s.keys ++ presses (time + s.delay) rest

/-- The document of a score whose strokes are known. -/
def document (score : Score) (strokes : List Stroke) : Json :=
  .array [.object [
    ("name", score.name),
    ("author", score.author),
    ("transcribedBy", score.transcriber),
    ("bitsPerPage", .int 16),
    ("pitchLevel", .int (score.keyNote % 12)),
    ("bpm", .int score.bpm),
    ("songNotes", .array (presses 0 strokes))]]

/-- The event sheet of a score whose place on the keys is known. -/
def ofPlacement (score : Score) (placement : Placement) : Text :=
  (document score placement.strokes).render .compact

/-- The event sheet of a score. -/
def write (score : Score) : Except SheetError Text :=
  return ofPlacement score (← Placement.place score layout)

end SongSheet.EventSheet
