import SongSheet.Batch
import SongSheet.Command.Invocation

/-!
# Commands

The program on a host: its arguments are read, and the command that they ask for is run. A refusal
is logged and ends the program with exit code one.
-/

set_option autoImplicit false

namespace SongSheet.Command

/-- How the program ends. -/
inductive Outcome where
  /-- A command ran to its end. -/
  | finished (code : Nat)
  /-- The arguments ended the program. -/
  | left (exit : Exit)
  /-- The arguments ask for nothing. -/
  | nothingAsked
  | fault (fault : Fault)
  deriving DecidableEq

/-- What the program says about itself. -/
def versionText : Text := "sheets 0.1.0\n"

/-- A text with spaces at its end up to a width. -/
def padded (width : Nat) (t : Text) : Text :=
  t ++ List.replicate (width - t.length) (' ' : CodePoint)

/-- One line for every label of a registry: what it is good for, and its extension. -/
def formatLines (registry : Registry) : List Text :=
  let readers := registry.readers.map (·.1)
  let writers := registry.writers.map (·.1)
  (readers ++ writers).eraseDups.map fun label =>
    let modes : List Text :=
      (if readers.elem label then [("parse" : Text)] else [])
        ++ (if writers.elem label then [("format" : Text)] else [])
    let extension := (valueOf? label registry.extensions).getD []
    padded 20 label ++ (" " : Text) ++ padded 14 (Text.join "/" modes) ++ (" " : Text)
      ++ extension ++ ("\n" : Text)

/-- The settings that a request for converting gives. -/
def ConvertRequest.overrides (r : ConvertRequest) (verbose : Bool) : Yaml.Table :=
  Settings.named
    [("conversion", .table (Settings.named
        [("output_format", r.outputFormat),
          ("key_layout", r.keyLayout),
          ("encoding", r.encoding),
          ("output_dir", r.outputDir)])),
      ("logging", .table (Settings.named
        [("verbose", .scalar (if verbose || r.verbose then .bool true else .null))]))]

section

variable {m : Type → Type} [Monad m] [Host m]

/-- The text of a settings file, if one is named. -/
def settingsText (file : Yaml.Value) : ExceptT Stop m (Option Text) := do
  if file.isSet then
    let file ← textSetting file
    let path := Path.ofText file
    let found ← if path.fault?.isSome then pure false else ask path (Host.isPresent path)
    if found then
      return some (← needText ("utf-8" : Text) path)
    else throw (.refused (("Config file not found: " : Text) ++ file))
  else return none

/-- Converts files. -/
def runConvert (verbose : Bool) (r : ConvertRequest) : ExceptT Stop m Nat := do
  let file ← settingsText r.settingsFile
  match Settings.load file (r.overrides verbose) with
  | .error e => throw (.fault (.settings e))
  | .ok settings =>
    let failed ← Batch.run .default settings (r.inputs.map Path.ofText)
    return if failed = 0 then 0 else 1

/-- Lists the formats. -/
def runFormats : ExceptT Stop m Nat := do
  for line in formatLines .default do
    (liftM (Host.print line : m Unit) : ExceptT Stop m Unit)
  return 0

/-- Writes the octets of a track to a file. The header is written before the messages are looked at,
so messages that have no octets leave the header. -/
def writeTrack (path : Path) (ticksPerBeat : Int) (track : List Midi.Event) :
    ExceptT Stop m Unit :=
  match Midi.file ticksPerBeat track with
  | .ok octets => ask path (Host.write path octets)
  | .error e => do
    ask path (Host.write path ((Midi.headerChunk ticksPerBeat).toOption.getD []))
    throw (.fault (.midiFile e))

/-- The track of a score. Without a pitch to start from it is a fault if a tone sounds. -/
def track (basePitch : Option Int) (score : Score) : ExceptT Stop m (List Midi.Event) := do
  let exporter : Midi.Exporter := { basePitch := basePitch.getD 0 }
  if basePitch.isNone && exporter.sounds 0 score.beats then
    match Midi.heading score with
    | .error e => throw (.fault (.track e))
    | .ok _ => throw (.fault .settingType)
  else
    match exporter.track score with
    | .ok track => return track
    | .error (.sheet e) => throw (.refused e.message)
    | .error e => throw (.fault (.track e))

/-- Writes a sheet as a MIDI file. -/
def runMidi (verbose : Bool) (r : MidiRequest) : ExceptT Stop m Nat := do
  let path := Path.ofText r.input
  let t ← needText r.encoding path
  let race := Registry.default.race (some path.name) t
  Batch.logRace verbose race
  match race.result with
  | .error e => throw (.refused e.message)
  | .ok score =>
    log .commandLine .info
      (("Parsed " : Text) ++ Text.ofNat score.beats.length ++ (" beats at " : Text)
        ++ Text.ofInt score.bpm ++ (" bpm" : Text))
    let output := Path.ofText (← textSetting r.output)
    ask output.parent (Host.makeDirectory output.parent)
    writeTrack output ({} : Midi.Exporter).ticksPerBeat (← track r.basePitch score)
    log .midi .info (("MIDI written to " : Text) ++ output.display)
    return 0

/-- Runs a command. -/
def runRequest (verbose : Bool) : Request → ExceptT Stop m Nat
  | .convert r => runConvert verbose r
  | .formats => runFormats
  | .toMidi r => runMidi verbose r

/-- Runs the program with arguments. -/
def run (arguments : List Text) : m Outcome := do
  match Invocation.read arguments with
  | .error .version =>
    Host.print versionText
    return .left .version
  | .error exit => return .left exit
  | .ok ⟨_, none⟩ => return .nothingAsked
  | .ok ⟨verbose, some request⟩ =>
    match ← (runRequest verbose request).run with
    | .ok code => return .finished code
    | .error (.refused message) =>
      Host.log ⟨.commandLine, .error, message⟩
      return .finished 1
    | .error (.fault fault) => return .fault fault

end

end SongSheet.Command
