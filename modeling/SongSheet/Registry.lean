import SongSheet.ReadError
import SongSheet.Score

/-!
# Registries of formats

A sheet does not say what format it is in. `Registry.race` offers it to every reader in turn; the
first that accepts it wins, and the failures of those before are kept. The score is then written by
the writer of the format that is asked for.

A registry is a list of handlers, each with a label. A label may come more than once: it keeps the
place where it first came, and the last handler with a reader, a writer or an extension counts.
-/

set_option autoImplicit false

namespace SongSheet

/-- Reads a text, whose file may have a name. -/
abbrev Reader := Option Text → Text → Except ReadError Score

/-- A written sheet. -/
structure Written where
  text : Text
  /-- What was added to every pitch to put it on a key. -/
  shift : Int := 0
  deriving DecidableEq, Repr

/-- Writes a score, for a key layout if one is given. -/
abbrev Writer := Option Text → Score → Except SheetError Written

/-- A format under a label. -/
structure Handler where
  label : Text
  reader : Option Reader := none
  writer : Option Writer := none
  /-- What the names of written files end in. -/
  extension : Text := ".txt"

/-- Why a conversion fails. -/
inductive ConversionError where
  | sheet (error : SheetError)
  | unknownFormat (label : Text)
  /-- Every reader failed; each is named with its failure. -/
  | noReader (failures : List (Text × ReadError))
  deriving DecidableEq

/-- The words for a failed conversion. -/
def ConversionError.message : ConversionError → Text
  | .sheet e => e.message
  | .unknownFormat label => ("Unknown format: " : Text) ++ label
  | .noReader [] => "No parser registered"
  | .noReader failures =>
    Text.join "\n" (failures.map fun (label, e) => label ++ (" -> " : Text) ++ e.message)

/-- A list of handlers. -/
structure Registry where
  handlers : List Handler

/-- What came of offering a text to every reader. -/
structure Race where
  /-- The readers that failed before one accepted the text. -/
  failures : List (Text × ReadError)
  winner : Option (Text × Score)

/-- The score of the winner. -/
def Race.result (race : Race) : Except ConversionError Score :=
  match race.winner with
  | some (_, score) => .ok score
  | none => .error (.noReader race.failures)

/-- What came of a conversion. -/
structure Conversion where
  race : Race
  result : Except ConversionError Written

namespace Registry

/-- The readers by their labels. -/
def readers (r : Registry) : List (Text × Reader) :=
  assign (r.handlers.filterMap fun h => h.reader.map (h.label, ·))

/-- The writers by their labels. -/
def writers (r : Registry) : List (Text × Writer) :=
  assign (r.handlers.filterMap fun h => h.writer.map (h.label, ·))

/-- The extensions by their labels. -/
def extensions (r : Registry) : List (Text × Text) :=
  assign (r.handlers.map fun h => (h.label, h.extension))

/-- The extension of a label. -/
def extension (r : Registry) (label : Text) : Except ConversionError Text :=
  match valueOf? label r.extensions with
  | some extension => .ok extension
  | none => .error (.unknownFormat label)

/-- Offers a text to readers until one accepts it. -/
def raceAmong (fileName : Option Text) (t : Text) : List (Text × Reader) → Race
  | [] => ⟨[], none⟩
  | (label, reader) :: rest =>
    match reader fileName t with
    | .ok score => ⟨[], some (label, score)⟩
    | .error e =>
      let later := raceAmong fileName t rest
      { later with failures := (label, e) :: later.failures }

/-- Offers a text to every reader. -/
def race (r : Registry) (fileName : Option Text) (t : Text) : Race :=
  raceAmong fileName t r.readers

/-- The score of a text in any format. -/
def read (r : Registry) (fileName : Option Text) (t : Text) : Except ConversionError Score :=
  (r.race fileName t).result

/-- The sheet of a score in the format of a label. -/
def write (r : Registry) (label : Text) (keyLayout : Option Text) (score : Score) :
    Except ConversionError Written :=
  match valueOf? label r.writers with
  | none => .error (.unknownFormat label)
  | some writer => (writer keyLayout score).mapError .sheet

/-- A text in any format, and what it becomes in the format of a label. -/
def conversion (r : Registry) (label : Text) (fileName keyLayout : Option Text) (t : Text) :
    Conversion :=
  let race := r.race fileName t
  ⟨race, race.result.bind (r.write label keyLayout)⟩

/-- A text in any format as a sheet in the format of a label. -/
def convert (r : Registry) (label : Text) (fileName keyLayout : Option Text) (t : Text) :
    Except ConversionError Text :=
  (r.conversion label fileName keyLayout t).result.map (·.text)

end Registry

end SongSheet
