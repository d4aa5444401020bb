import SongSheet.CipherSheet
import SongSheet.EventSheet
import SongSheet.LetterSheet
import SongSheet.Registry
import SongSheet.Script

/-!
# Formats

The four formats that are known from the start, their labels and extensions, and the registry of
them. Event sheets come first in a race: their form is the strictest.
-/

set_option autoImplicit false

namespace SongSheet

/-- A known format. -/
inductive Format where
  | eventSheet
  | letterSheet
  | cipherSheet
  | script
  deriving DecidableEq, Repr

namespace Format

/-- The formats in the order of their registration. -/
def all : List Format := [eventSheet, letterSheet, cipherSheet, script]

/-- The label of a format. -/
def label : Format → Text
  | eventSheet => "sky-studio-json"
  | letterSheet => "sky-studio-abc"
  | cipherSheet => "piano-wizard-yp"
  | script => "fengxu-genshin-2"

/-- What the names of the files of a format end in. -/
def extension : Format → Text
  | eventSheet => ".json"
  | letterSheet => ".txt"
  | cipherSheet => ".yp.txt"
  | script => ".js"

/-- The reader of a format. -/
def reader : Format → Reader
  | eventSheet => fun _ t => (EventSheet.read t).mapError .sheet
  | letterSheet => fun fileName t => (LetterSheet.read fileName t).mapError .sheet
  | cipherSheet => fun fileName t => (CipherSheet.read fileName t).mapError .sheet
  | script => fun _ t => Script.read t

/-- The writer of a format. -/
def writer : Format → Writer
  | eventSheet => fun _ score => do
    let placement ← Placement.place score EventSheet.layout
    return ⟨EventSheet.ofPlacement score placement, placement.shift⟩
  | letterSheet => fun _ score => return { text := ← LetterSheet.write score }
  | cipherSheet => fun _ score => return { text := CipherSheet.write score }
  | script => fun keyLayout score => do
    let layout ← Script.layoutFor keyLayout
    let placement ← Placement.place score layout
    return ⟨Script.ofPlacement layout score placement, placement.shift⟩

/-- A format that is both read and written, under its own label. -/
def handler (f : Format) : Handler :=
  { label := f.label, reader := some f.reader, writer := some f.writer, extension := f.extension }

end Format

/-- The registry of the known formats. -/
def Registry.default : Registry := ⟨Format.all.map Format.handler⟩

end SongSheet
