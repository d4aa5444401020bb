import SongSheet.Command.Switch
import SongSheet.Yaml.Value

/-!
# Invocations

What the arguments of the program ask for: to convert files, to list the formats, or to write one
sheet as a MIDI file. `Invocation.read` reads them, or says why the program ends without doing
anything.
-/

set_option autoImplicit false

namespace SongSheet.Command

open Yaml (Value)

/-- The program ends before it does anything. -/
inductive Exit where
  | help
  | version
  | wrongUsage
  deriving DecidableEq, Repr

/-- What converting is asked to do. What is null comes from the settings. -/
structure ConvertRequest where
  inputs : List Text
  outputFormat : Value := .null
  outputDir : Value := .null
  keyLayout : Value := .null
  encoding : Value := .null
  settingsFile : Value := .null
  verbose : Bool := false

/-- Which sheet to write as which MIDI file. -/
structure MidiRequest where
  input : Text
  output : Value
  /-- The MIDI pitch of pitch zero, if it is a number. -/
  basePitch : Option Int := some 60
  encoding : Value := ("utf-8" : Text)

/-- What the program can do. -/
inductive Request where
  | convert (request : ConvertRequest)
  | formats
  | toMidi (request : MidiRequest)

/-- What the arguments of the program ask for. -/
structure Invocation where
  verbose : Bool := false
  request : Option Request := none

/-! ## Forms -/

/-- The switch that asks for help. -/
def helpSwitch : Switch := { names := ["-h", "--help"].map Text.ofString }

/-- The switch that asks for a full log. -/
def verboseSwitch : Switch := { names := ["-v", "--verbose"].map Text.ofString }

/-- A switch of one name that takes a value. -/
def valueSwitch (name : Text) : Switch := { names := [name], takesValue := true }

/-- The arguments of the program. -/
def programForm : Form :=
  { switches := [helpSwitch, { names := [Text.ofString "--version"] }, verboseSwitch]
    operands := .command }

/-- The arguments of converting. -/
def convertForm : Form :=
  { switches :=
      helpSwitch
        :: ["--to", "--output-dir", "--key-layout", "--encoding", "--config"].map
          (fun (name : String) => valueSwitch name)
        ++ [verboseSwitch]
    operands := .many }

/-- The arguments of listing the formats. -/
def formatsForm : Form := { switches := [helpSwitch], operands := .none }

/-- The arguments of writing a MIDI file. -/
def midiForm : Form :=
  { switches :=
      helpSwitch
        :: ["--output", "--base-pitch", "--encoding"].map (fun (name : String) => valueSwitch name)
    operands := .one }

/-! ## Reading -/

/-- Goes through what was taken in order. -/
def follow {α : Type} (step : α → Taken → Except Exit α) (start : α) (taken : List Taken) :
    Except Exit α :=
  taken.foldlM step start

/-- The end of a scan that went well is what was read, with what is left over. -/
def finish {α : Type} (scan : Scan) (value : α) : Except Exit (α × List Text) :=
  if scan.failed then .error .wrongUsage else .ok (value, scan.leftOver)

/-- The setting that the value of a switch is: an empty list where it has none. -/
def settingOf (value : Option Text) : Value :=
  match value with
  | some t => t
  | none => .list []

/-- One more argument of converting. -/
def convertStep (r : ConvertRequest) : Taken → Except Exit ConvertRequest
  | .operands inputs => .ok { r with inputs }
  | .switch key value =>
    let value := settingOf value
    if key = "--help" then .error .help
    else if key = "--to" then .ok { r with outputFormat := value }
    else if key = "--output-dir" then .ok { r with outputDir := value }
    else if key = "--key-layout" then .ok { r with keyLayout := value }
    else if key = "--encoding" then .ok { r with encoding := value }
    else if key = "--config" then .ok { r with settingsFile := value }
    else .ok { r with verbose := true }

/-- What converting is asked to do, and the arguments that it does not know. -/
def readConvert (arguments : List Text) : Except Exit (Request × List Text) := do
  let scan := convertForm.scan arguments
  let (request, leftOver) ← finish scan (← follow convertStep { inputs := [] } scan.taken)
  if request.inputs.isEmpty then .error .wrongUsage else return (.convert request, leftOver)

/-- What listing the formats is asked to do. -/
def readFormats (arguments : List Text) : Except Exit (Request × List Text) := do
  let scan := formatsForm.scan arguments
  let _ ← follow (fun _ _ => (.error .help : Except Exit Unit)) () scan.taken
  finish scan .formats

/-- The arguments of writing a MIDI file, which may be missing. -/
structure MidiDraft where
  input : Option Text := none
  output : Option Value := none
  basePitch : Option Int := some 60
  encoding : Value := ("utf-8" : Text)

/-- One more argument of writing a MIDI file. -/
def midiStep (d : MidiDraft) : Taken → Except Exit MidiDraft
  | .operands values => .ok { d with input := values.head? }
  | .switch key value =>
    if key = "--help" then .error .help
    else if key = "--output" then .ok { d with output := some (settingOf value) }
    else if key = "--base-pitch" then
      match value with
      | none => .ok { d with basePitch := none }
      | some t =>
        match Text.wholeInt? t with
        | some basePitch => .ok { d with basePitch := some basePitch }
        | none => .error .wrongUsage
    else .ok { d with encoding := settingOf value }

/-- Which sheet to write as which MIDI file. -/
def readMidi (arguments : List Text) : Except Exit (Request × List Text) := do
  let scan := midiForm.scan arguments
  let (draft, leftOver) ← finish scan (← follow midiStep {} scan.taken)
  match draft.input, draft.output with
  | some input, some output =>
    return (.toMidi { input, output, basePitch := draft.basePitch, encoding := draft.encoding },
      leftOver)
  | _, _ => .error .wrongUsage

/-- What a command is asked to do. -/
def readCommand (name : Text) (arguments : List Text) : Except Exit (Request × List Text) :=
  if name = "convert" then readConvert arguments
  else if name = "formats" then readFormats arguments
  else if name = "to-midi" then readMidi arguments
  else .error .wrongUsage

/-- One more argument of the program, with the arguments that no command knows. -/
def programStep (state : Invocation × List Text) : Taken → Except Exit (Invocation × List Text)
  | .operands (name :: arguments) => do
    let (request, leftOver) ← readCommand name arguments
    return ({ state.1 with request := some request }, state.2 ++ leftOver)
  | .operands [] => .error .wrongUsage
  | .switch key _ =>
    if key = "--help" then .error .help
    else if key = "--version" then .error .version
    else .ok ({ state.1 with verbose := true }, state.2)

/-- What the arguments of the program ask for. -/
def Invocation.read (arguments : List Text) : Except Exit Invocation := do
  let scan := programForm.scan arguments
  let (invocation, unknown) ← follow programStep ({}, []) scan.taken
  let (_, leftOver) ← finish scan ()
  if unknown.isEmpty ∧ leftOver.isEmpty then return invocation else .error .wrongUsage

/-- Arguments with a settings file for converting where they name none. -/
def withSettingsFile (file : Text) (arguments : List Text) : List Text :=
  let command := arguments.find? fun a => (Text.after? "-" a).isNone
  if command = some "convert" ∧ !arguments.elem (Text.ofString "--config") then
    arguments ++ [("--config" : Text), file]
  else arguments

end SongSheet.Command
