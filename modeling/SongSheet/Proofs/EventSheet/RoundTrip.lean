import SongSheet.Proofs.EventSheet.Chords
import SongSheet.Proofs.Json.RoundTrip

/-!
# Event sheets — what is read of a written sheet

Between the writer and the reader stand a transposition, a clock in whole milliseconds, key labels
and JSON. What comes back is the score as it is *heard* (`heard`) on that clock: its soundings
gathered by onset, at the pitches that were pressed. **Every score that can be transposed is
written, and reads back as that** (`read_placed`).
-/

set_option autoImplicit false

namespace SongSheet.EventSheet

/-! ## 1. The presses of a document -/

/-- The labels of presses, each with its time. -/
def labelled (ps : List Press) : List (Int × Json) :=
  ps.map fun p => (p.time, Json.string (keyLabel p.isFirst p.key))

theorem chords_labelled (ps : List Press) :
    chords (labelled ps) = (moments (ps.map (·.time))).map fun time =>
      (time, (ps.filter (·.time == time)).map fun p => Json.string (keyLabel p.isFirst p.key)) := by
  have htimes : (labelled ps).map (·.1) = ps.map (·.time) := List.map_map
  rw [chords_eq, htimes]
  refine List.map_congr_left ?_
  intro time _
  rw [labelled, List.filter_map, List.map_map]
  rfl

/-- The reader finds the tones of every chord. -/
theorem sounding_labelled {ps : List Press} (h : ∀ p ∈ ps, p.key < layout.keyCount) :
    ((chords (labelled ps)).mapM fun (time, labels) => do
      let keys ← labels.mapM checkKey
      return (time, keys.map fun (key : Nat) => Pitch.ofDegree key)) = .ok (chordsOf ps) := by
  rw [chords_labelled]
  refine mapM_map_eq_pure fun time _ => ?_
  have hkeys : ((ps.filter (·.time == time)).map fun p =>
      Json.string (keyLabel p.isFirst p.key)).mapM checkKey
        = .ok ((ps.filter (·.time == time)).map (·.key)) :=
    mapM_map_eq_pure fun p hp => checkKey_keyLabel (h p (List.mem_filter.mp hp).1)
  show (do
    let keys ← ((ps.filter (·.time == time)).map fun p =>
      Json.string (keyLabel p.isFirst p.key)).mapM checkKey
    return (time, keys.map fun (key : Nat) => Pitch.ofDegree key)
      : Except SheetError (Int × List Int)) = _
  rw [hkeys]
  show Except.ok (time, ((ps.filter (·.time == time)).map (·.key)).map
    fun (key : Nat) => Pitch.ofDegree key) = _
  rw [List.map_map]
  rfl

/-! ## 2. The document -/

/-- The title that a reader makes of a name. -/
def titleOf (name : Text) : Text := if name.isEmpty then "Unknown" else name

theorem orElse_string (name default : Text) :
    (Json.string name).orElse (.string default)
      = .string (if name.isEmpty then default else name) := by
  cases name <;> rfl

variable {score : Score} {name author transcriber : Text} {strokes : List Stroke}

/-- The fields of the only sheet of a document. -/
def documentFields (score : Score) (strokes : List Stroke) : List (Text × Json) :=
  [("name", score.name), ("author", score.author), ("transcribedBy", score.transcriber),
    ("bitsPerPage", .int 16), ("pitchLevel", .int (score.keyNote % 12)), ("bpm", .int score.bpm),
    ("songNotes", .array (presses 0 strokes))]

theorem nodup_documentFields (score : Score) (strokes : List Stroke) :
    ((documentFields score strokes).map (·.1)).Nodup := by
  show (["name", "author", "transcribedBy", "bitsPerPage", "pitchLevel", "bpm", "songNotes"]
    : List Text).Nodup
  decide

theorem sheetFields_document (score : Score) (strokes : List Stroke) :
    sheetFields (document score strokes) = .ok (documentFields score strokes) := rfl

theorem checkPitchLevel_document (score : Score) (strokes : List Stroke) :
    Score.checkPitchLevel (Json.field "pitchLevel" (documentFields score strokes))
      = .ok (score.keyNote % 12) := by
  have hrange : ¬(score.keyNote % 12 < 0 ∨ 11 < score.keyNote % 12) := by omega
  exact if_neg hrange

theorem checkBpm_document (strokes : List Stroke) (hbpm : 0 < score.bpm) :
    Score.checkBpm (Json.field "bpm" (documentFields score strokes)) = .ok score.bpm :=
  if_neg (Int.not_le.mpr hbpm)

theorem pressFields_document (score : Score) (strokes : List Stroke) :
    pressFields (Json.field "songNotes" (documentFields score strokes))
      = .ok ((pressesOf 0 strokes).map Press.fields) := by
  show pressFields (.array (presses 0 strokes)) = _
  rw [presses_eq, pressFields_presses]

/-- **A document is read as what is heard of its presses**, whatever its metadata are. -/
theorem ofJson_document_eq (hbpm : 0 < score.bpm)
    (hpresses : ∀ p ∈ pressesOf 0 strokes, 0 ≤ p.time ∧ p.key < layout.keyCount) :
    ofJson (document score strokes) = .ok {
      name := score.name.orElse (.string "Unknown")
      author := score.author.orElse (.string [])
      transcriber := score.transcriber.orElse (.string [])
      keyNote := score.keyNote % 12
      bpm := score.bpm
      beats := beats score.bpm 0 [] (chordsOf (pressesOf 0 strokes)) } := by
  have htimed := timed_presses fun p hp => (hpresses p hp).1
  have hsounding := sounding_labelled fun p hp => (hpresses p hp).2
  rw [ofJson, sheetFields_document, ok_bind, checkPitchLevel_document, ok_bind,
    checkBpm_document strokes hbpm, ok_bind, pressFields_document, ok_bind, htimed, ok_bind,
    ← labelled, hsounding, ok_bind]
  rfl

/-- Of strings only an empty title is read as another. -/
theorem ofJson_document (hname : score.name = .string name)
    (hauthor : score.author = .string author)
    (htranscriber : score.transcriber = .string transcriber) (hbpm : 0 < score.bpm)
    (hpresses : ∀ p ∈ pressesOf 0 strokes, 0 ≤ p.time ∧ p.key < layout.keyCount) :
    ofJson (document score strokes) = .ok {
      name := .string (titleOf name)
      author := .string author
      transcriber := .string transcriber
      keyNote := score.keyNote % 12
      bpm := score.bpm
      beats := beats score.bpm 0 [] (chordsOf (pressesOf 0 strokes)) } := by
  have hfrom : (Json.string author).orElse (.string []) = .string author := by
    cases author <;> rfl
  have hby : (Json.string transcriber).orElse (.string []) = .string transcriber := by
    cases transcriber <;> rfl
  rw [ofJson_document_eq hbpm hpresses, hname, hauthor, htranscriber, hfrom, hby, orElse_string,
    titleOf]

theorem plainItems_presses (ps : List Press) : Json.PlainItems (ps.map Press.toJson) := by
  induction ps with
  | nil => exact trivial
  | cons p ps ih =>
    have hnames : (p.fields.map (·.1)).Nodup := by
      show (["time", "key"] : List Text).Nodup
      decide
    exact ⟨⟨hnames, trivial, trivial, trivial⟩, ih⟩

/-- JSON keeps a document whose metadata are strings as it is. -/
theorem plain_document (strokes : List Stroke) (hname : score.name = .string name)
    (hauthor : score.author = .string author)
    (htranscriber : score.transcriber = .string transcriber) :
    Json.Plain (document score strokes) := by
  have hpresses := plainItems_presses (pressesOf 0 strokes)
  rw [← presses_eq] at hpresses
  refine ⟨⟨nodup_documentFields score strokes, ?_, ?_, ?_, trivial, trivial, trivial, hpresses,
    trivial⟩, trivial⟩
  · rw [hname]
    exact trivial
  · rw [hauthor]
    exact trivial
  · rw [htranscriber]
    exact trivial

/-! ## 3. Written and read -/

/-- **Every score that can be transposed is written, and reading it gives what is heard of it**: its
soundings gathered by onset on a clock in whole milliseconds, each up to the next, at the pitches
that were pressed. -/
theorem read_placed {shift : Int} (hname : score.name = .string name)
    (hauthor : score.author = .string author)
    (htranscriber : score.transcriber = .string transcriber) (hbpm : 0 < score.bpm)
    (hrates : ∀ b ∈ score.beats, 0 ≤ b.rate.num ∧ 0 < b.rate.den)
    (hshift : Placement.transposition score layout = .ok shift) :
    ∃ text chords, write score = .ok text
      ∧ Gathers (soundings (milliseconds score.bpm) 0
        (score.beats.map (atPitch score.keyNote shift))) chords
      ∧ read text = .ok {
        name := .string (titleOf name)
        author := .string author
        transcriber := .string transcriber
        keyNote := score.keyNote % 12
        bpm := score.bpm
        beats := heard score.bpm chords } := by
  obtain ⟨strokes, hplace, hstrokes⟩ := Placement.place_eq_ok hbpm hshift
  have hdelay : ∀ b ∈ score.beats,
      Placement.delay score.bpm b.rate = milliseconds score.bpm b := by
    intro b hb
    exact delay_eq hbpm (hrates b hb).2
  have hforwards : ∀ b ∈ score.beats, 0 ≤ Placement.delay score.bpm b.rate := by
    intro b hb
    rw [hdelay b hb]
    exact milliseconds_nonneg hbpm (hrates b hb).1 (hrates b hb).2
  have hpresses : ∀ p ∈ pressesOf 0 strokes, 0 ≤ p.time ∧ p.key < layout.keyCount :=
    mem_pressesOf hstrokes hforwards
  have hgathers := gathers_chordsOf hstrokes hdelay 0
  have hclock : ∀ c ∈ chordsOf (pressesOf 0 strokes), 0 ≤ c.1 := by
    intro c hc
    obtain ⟨moment, hmoment, rfl⟩ := List.mem_map.mp hc
    obtain ⟨p, hp, rfl⟩ := List.mem_map.mp (mem_moments.mp hmoment)
    exact (hpresses p hp).1
  -- The writer's text is JSON of a document, and the reader gets that document back.
  refine ⟨ofPlacement score ⟨shift, strokes⟩, chordsOf (pressesOf 0 strokes), ?_, hgathers, ?_⟩
  · rw [write, hplace]
    rfl
  · rw [read, ofPlacement, Json.read_render (plain_document strokes hname hauthor htranscriber)]
    show ofJson (document score strokes) = _
    rw [ofJson_document hname hauthor htranscriber hbpm hpresses,
      beats_eq_heard hgathers.increasing hclock]

/-- A rest in front, two beats that round to one moment, and quotation marks in the metadata. -/
theorem read_placed_sample :
    let score : Score := {
      author := .string "\"\\"
      transcriber := .string "\n"
      keyNote := 14
      bpm := 120
      beats := [⟨⟨1, 1, by decide⟩, []⟩, ⟨⟨1, 601, by decide⟩, [-1]⟩, ⟨⟨2, 6, by decide⟩, [2, 0]⟩,
        ⟨⟨1, 2, by decide⟩, [5]⟩] }
    ∃ text chords, write score = .ok text
      ∧ Gathers [(500, [11]), (500, [14, 12]), (666, [17])] chords
      ∧ read text = .ok { score with
        name := .string "Unknown"
        keyNote := 2
        beats := heard 120 chords } := by
  intro score
  have hshift : Placement.transposition score layout = .ok (-2) := by rfl
  exact read_placed rfl rfl rfl (by decide) (by decide) hshift

end SongSheet.EventSheet
