import SongSheet.Json.Reader
import SongSheet.Json.Writer

/-!
# What can be wrong with a sheet

Every refusal of a reader, a writer, a layout or a rate has a constructor of `SheetError` with the
data that its message needs. `kind` sorts them into the four kinds that callers tell apart,
`message` words them, `place` says where in the text the fault stands as far as it is known.
-/

set_option autoImplicit false

namespace SongSheet

/-- Why a sheet, a key layout, a score or a rate is refused. -/
inductive SheetError where
  /-- The text of an event sheet is not JSON. -/
  | eventJson (error : Json.SyntaxError)
  /-- The text of a key layout is not JSON. -/
  | layoutJson (error : Json.SyntaxError)
  /-- A letter sheet holds blanks only. -/
  | letterEmpty
  /-- A letter sheet lacks its mark. -/
  | letterMark
  /-- The header of a letter sheet does not end. -/
  | letterHeader
  /-- No key, dot or blank of a letter sheet begins here. -/
  | letterKey (index line column : Nat) (char : Option CodePoint)
  /-- A text has not the form of a cipher sheet. -/
  | cipherForm
  /-- A timeline breaks off or breaks its form at an index. -/
  | timelineForm (index : Nat)
  /-- A script is not well formed. -/
  | scriptForm
  /-- A statement of a script is no call of the player. -/
  | scriptStatement (line column : Nat)
  /-- An argument of a call is not a literal. -/
  | scriptArgument (line : Nat)
  /-- A script has no statement. -/
  | scriptEmpty
  | zeroDenominator
  | pitchLevelRange
  | bpmRange
  | eventNone
  | eventEncrypted
  | eventTimeRange
  | eventKey (key : Json)
  /-- A step of a cipher sheet's rate counts zero. -/
  | cipherRate (step : Text)
  /-- A digit of a cipher sheet is past the seventh degree. -/
  | cipherDegree (digit : CodePoint)
  /-- A pitch has no place among the naturals. -/
  | notNatural (pitch : Int)
  /-- A natural note is past the keys of a letter sheet. -/
  | letterNote (note : Int)
  /-- A rate is no whole number of a letter sheet's units. -/
  | letterRate (num den : Int)
  | midiPitch (pitch : Int)
  | timelineEmpty
  | timelineVersion (version : Int)
  | pitchLevelType
  | bpmType
  | eventShape
  | eventNotes
  | eventNote
  | eventTimeType
  | layoutShape
  | layoutKeys
  | layoutOffset
  | layoutSemitone
  /-- A call of the player has not three arguments. -/
  | scriptArity (count : Nat)
  /-- The arguments of a call of the player have the wrong types. -/
  | scriptTypes
  /-- No transposition puts every pitch on a key. -/
  | missingKey
  deriving DecidableEq

namespace SheetError

/-- The kinds of refusal that a caller tells apart. -/
inductive Kind where
  | malformed
  | outOfRange
  | wrongType
  | missingKey
  deriving DecidableEq, Repr

/-- The kind of a refusal. -/
def kind : SheetError → Kind
  | eventJson _ | layoutJson _ | letterEmpty | letterMark | letterHeader | letterKey .. | cipherForm
  | timelineForm _ | scriptForm | scriptStatement .. | scriptArgument _ | scriptEmpty => .malformed
  | zeroDenominator | pitchLevelRange | bpmRange | eventNone | eventEncrypted | eventTimeRange
  | eventKey _ | cipherRate _ | cipherDegree _ | notNatural _ | letterNote _ | letterRate ..
  | midiPitch _ | timelineEmpty | timelineVersion _ => .outOfRange
  | pitchLevelType | bpmType | eventShape | eventNotes | eventNote | eventTimeType | layoutShape
  | layoutKeys | layoutOffset | layoutSemitone | scriptArity _ | scriptTypes => .wrongType
  | missingKey => .missingKey

/-- The words for a refusal. -/
def message : SheetError → Text
  | eventJson e => ("JSON syntax error: " : Text) ++ e.problem.message
  | layoutJson e => ("Invalid key layout: " : Text) ++ e.problem.message
  | letterEmpty => "Content is empty"
  | letterMark => "Syntax error"
  | letterHeader => "Missing Character: \"\\n\""
  | letterKey _ line column char =>
    ("Parse error(line: " : Text) ++ Text.ofNat line ++ (", column: " : Text)
      ++ Text.ofNat column ++ (", char: " : Text) ++ char.toList ++ (")" : Text)
  | cipherForm => "Syntax error"
  | timelineForm index => ("Parse error(index: " : Text) ++ Text.ofNat index ++ (")" : Text)
  | scriptForm => "Syntax error: *"
  | scriptStatement line _ =>
    ("Expected a parseGenshinImpactMusic call at line " : Text) ++ Text.ofNat line
  | scriptArgument line => ("Non-literal argument at line " : Text) ++ Text.ofNat line
  | scriptEmpty => "Unknown error"
  | zeroDenominator => "The denominator cannot be zero"
  | pitchLevelRange => "\"pitchLevel\" is out of range [0, 11]"
  | bpmRange => "\"bpm\" must be greater than 0"
  | eventNone => "Sheets is empty"
  | eventEncrypted => "Encrypted not support"
  | eventTimeRange => "\"time\" must be greater than 0"
  | eventKey key => ("Unknown key: " : Text) ++ key.display
  | cipherRate step => ("Unsupported rate: " : Text) ++ step
  | cipherDegree digit => ("Unsupported note: " : Text) ++ [digit]
  | notNatural pitch => ("The note cannot be natural: " : Text) ++ Text.ofInt pitch
  | letterNote note => ("Unknown note: " : Text) ++ Text.ofInt note
  | letterRate num den =>
    ("Unsupported rate: " : Text) ++ Text.ofInt num ++ ("/" : Text) ++ Text.ofInt den
  | midiPitch pitch => ("Pitch out of MIDI range: " : Text) ++ Text.ofInt pitch
  | timelineEmpty => "Keys is empty"
  | timelineVersion version => ("Unexpect version: " : Text) ++ Text.ofInt version
  | pitchLevelType => "\"pitchLevel\" must be an integer"
  | bpmType => "\"bpm\" must be an integer"
  | eventShape => "Data type error"
  | eventNotes => "\"songNotes\" must be an array"
  | eventNote => "\"songNotes\" items must be objects"
  | eventTimeType => "\"time\" must be an integer"
  | layoutShape => "Key layout must be an object"
  | layoutKeys => "\"keys\" must be an array"
  | layoutOffset => "\"keyOffset\" must be an integer"
  | layoutSemitone => "\"semitone\" must be a boolean"
  | scriptArity count =>
    ("parseGenshinImpactMusic takes 3 arguments, got " : Text) ++ Text.ofNat count
  | scriptTypes => "parseGenshinImpactMusic expects (str, str, int)"
  | missingKey => "MissingKeyException"

/-- Where in a text a fault stands, as far as it is known. -/
structure Place where
  index : Option Nat
  line : Option Nat
  column : Option Nat
  deriving DecidableEq, Repr

/-- The place of a fault. -/
def place : SheetError → Place
  | eventJson e | layoutJson e => ⟨some e.index, some e.line, some e.column⟩
  | letterKey index line column _ => ⟨some index, some line, some column⟩
  | timelineForm index => ⟨some index, none, none⟩
  | scriptStatement line column => ⟨none, some line, some column⟩
  | scriptArgument line => ⟨none, some line, none⟩
  | _ => ⟨none, none, none⟩

end SheetError

end SongSheet
