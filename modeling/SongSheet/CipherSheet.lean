import SongSheet.CipherSheet.Music
import SongSheet.FileName

/-!
# Cipher sheets

Songs in numbered notation: a comment with the metadata, a bracket with the key and the tempo, and
the beats. The text without comments is taken apart in `CipherSheet.Music`, the metadata come from
`CipherSheet.Comment`; here are the whole reader and the writer.

The writer spells an accidental as the natural below it with a sharp, and leaves out beats that have
no length.
-/

set_option autoImplicit false

namespace SongSheet.CipherSheet

/-! ## Reading -/

/-- The title of a sheet: what the header says, or else the name of the file. -/
def title (fileName : Option Text) (t : Text) : Text :=
  let written := headerValue t .name
  if written.isEmpty then FileName.stem ".yp." (fileName.getD []) else written

/-- The score of a cipher sheet. -/
def read (fileName : Option Text) (t : Text) : Except SheetError Score :=
  match Music.ofText? (music t) with
  | none => .error .cipherForm
  | some m => do
    return {
      name := .string (title fileName t)
      author := .string (headerValue t .author)
      transcriber := .string (headerValue t .transcribedBy)
      keyNote := m.keyNote
      bpm := ← m.tempo
      beats := ← m.toBeats }

/-! ## Writing -/

/-- The place in the octave of the natural at or below a pitch. -/
def naturalBelow (pitch : Int) : Int :=
  if Pitch.isAccidental pitch then pitch % 12 - 1 else pitch % 12

/-- The mark of an octave: nothing for the middle one, and a count past the neighbours. -/
def octaveMark (octave : Int) : Text :=
  if octave = 0 then []
  else if octave = 1 then "+"
  else if octave = -1 then "-"
  else if 0 < octave then ("+" : Text) ++ Text.ofInt octave
  else Text.ofInt octave

/-- A tone as a digit, an octave mark and perhaps a sharp. -/
def noteText (tone : Int) : Text :=
  Text.ofNat (Pitch.naturals.idxOf (naturalBelow tone) + 1) ++ octaveMark (tone / 12)
    ++ if Pitch.isAccidental tone then ("#" : Text) else []

/-- A beat and its comma; a beat without length is left out. -/
def beatText (beat : Beat) : Text :=
  let rate := beat.rate.reduce
  if rate.num ≤ 0 then []
  else
    let notes : Text :=
      if beat.tones.isEmpty then "0" else Text.join "&" (beat.tones.map noteText)
    let longer : Text := if rate.num = 1 then [] else ("*" : Text) ++ Text.ofInt rate.num
    let shorter : Text := if rate.den = 1 then [] else ("/" : Text) ++ Text.ofInt rate.den
    notes ++ longer ++ shorter ++ (",": Text)

/-- A key by its letter, with a sharp for an accidental. -/
def keyText (keyNote : Int) : Text :=
  let letter := letters.getD (Pitch.naturals.idxOf (naturalBelow keyNote)) 'C'
  letter :: if Pitch.isAccidental keyNote then ("#" : Text) else []

/-- The comment with the metadata. -/
def headerText (score : Score) : Text :=
  ("/**\n * name: " : Text) ++ score.name.display
    ++ ("\n * author: " : Text) ++ score.author.display
    ++ ("\n * arrangedBy: \n * transcribedBy: " : Text) ++ score.transcriber.display
    ++ ("\n */\n" : Text)

/-- The bracket with the key and the tempo. -/
def bracketText (score : Score) : Text :=
  ("[1=" : Text) ++ keyText score.keyNote ++ (",4/4," : Text) ++ Text.ofInt score.bpm
    ++ ("]" : Text)

/-- The cipher sheet of a score. -/
def write (score : Score) : Text :=
  headerText score ++ bracketText score ++ ("\n" : Text) ++ score.beats.flatMap beatText

end SongSheet.CipherSheet
