import SongSheet.Command.Step
import SongSheet.FileName
import SongSheet.Format

/-!
# Batches

Converting files one after the other into a directory. A file that is not there, not text, or in no
known format does not stop the batch: it is counted, logged, and its failure is written to a file of
its own beside the converted ones. Any other stop ends the batch.
-/

set_option autoImplicit false

namespace SongSheet.Batch

open Command

/-- What all files of a batch have in common. -/
structure Plan where
  registry : Registry
  /-- The label of the format to write. -/
  label : Text
  /-- What the names of the converted files end in. -/
  extension : Text
  /-- The text of the key layout to write for. -/
  keyLayout : Option Text
  encoding : Yaml.Value
  directory : Path
  errorLogs : Bool
  verbose : Bool

namespace Plan

/-- Where the sheet made from a file goes. -/
def target (p : Plan) (input : Path) : Path :=
  p.directory.child (FileName.converted p.extension input.name)

/-- Where the failure of a file goes. -/
def errorLog (p : Plan) (input : Path) : Path :=
  p.directory.child (("[ERR]" : Text) ++ input.name ++ (".log" : Text))

end Plan

section

variable {m : Type → Type} [Monad m] [Host m]

/-- Logs what came of offering a text to every reader. -/
def logRace (verbose : Bool) (race : Race) : ExceptT Stop m Unit := do
  for (label, e) in race.failures do
    logDetail verbose .registry
      (("Parser '" : Text) ++ label ++ ("' rejected input: " : Text) ++ e.message)
  match race.winner with
  | none => pure ()
  | some (label, score) =>
    logDetail verbose .registry
      (("Parsed with '" : Text) ++ label ++ ("': " : Text) ++ Text.ofNat score.beats.length
        ++ (" beats, bpm=" : Text) ++ Text.ofInt score.bpm)

/-- Logs the steps of a conversion. -/
def logConversion (verbose : Bool) (conversion : Conversion) : ExceptT Stop m Unit := do
  logRace verbose conversion.race
  match conversion.race.winner, conversion.result with
  | some (_, score), .ok written =>
    if written.shift ≠ 0 then
      logDetail verbose .placement
        (("Transposing '" : Text) ++ score.name.display ++ ("' by " : Text)
          ++ Text.ofInt written.shift ++ (" semitones" : Text))
  | _, _ => pure ()

/-- The sheet that a file becomes, or the words for why it becomes none. -/
def convertFile (p : Plan) (input : Path) : ExceptT Stop m (Except Text Text) := do
  match ← readText p.encoding input with
  | .error failure => return .error failure.message
  | .ok t =>
    let conversion := p.registry.conversion p.label (some input.name) p.keyLayout t
    logConversion p.verbose conversion
    match conversion.result with
    | .ok written => return .ok written.text
    | .error e => return .error e.message

/-- Converts a file into the directory of the batch; the number of failures is zero or one. -/
def processFile (p : Plan) (input : Path) : ExceptT Stop m Nat := do
  match ← convertFile p input with
  | .ok sheet =>
    writeText (p.target input) sheet
    log .commandLine .info
      (input.display ++ (" -> " : Text) ++ (p.target input).display)
    return 0
  | .error message =>
    log .commandLine .error
      (("Failed to convert " : Text) ++ input.display ++ (": " : Text) ++ message)
    if p.errorLogs then writeText (p.errorLog input) message
    return 1

/-- Converts files in order; how many of them failed. -/
def processFiles (p : Plan) : List Path → ExceptT Stop m Nat
  | [] => return 0
  | input :: rest => do
    let failed ← processFile p input
    return failed + (← processFiles p rest)

/-- The label that a setting gives, and its extension. A scalar that is no text is still looked up,
and not found. -/
def format (registry : Registry) (label : Yaml.Value) : ExceptT Stop m (Text × Text) :=
  match label with
  | .scalar (.text label) =>
    match registry.extension label with
    | .ok extension => return (label, extension)
    | .error e => throw (.refused e.message)
  | .scalar value => throw (.refused (ConversionError.unknownFormat value.display).message)
  | _ => throw (.fault .settingType)

/-- Plans a batch: the format has to be known, the key layout has to be readable, and the directory
is made. -/
def prepare (registry : Registry) (settings : Settings) : ExceptT Stop m Plan := do
  let (label, extension) ← format registry settings.outputFormat
  let keyLayout ←
    if settings.keyLayout.isSet then do
      let path := Path.ofText (← textSetting settings.keyLayout)
      pure (some (← needText settings.encoding path))
    else pure none
  let directory := Path.ofText (← textSetting settings.outputDir)
  ask directory (Host.makeDirectory directory)
  return {
    registry, label, extension, keyLayout
    encoding := settings.encoding
    directory
    errorLogs := settings.errorLogs.isSet
    verbose := settings.verbose.isSet }

/-- Converts files as the settings say; how many of them failed. -/
def run (registry : Registry) (settings : Settings) (inputs : List Path) : ExceptT Stop m Nat := do
  let plan ← prepare registry settings
  let failed ← processFiles plan inputs
  log .commandLine .info
    (("Converted " : Text) ++ Text.ofNat (inputs.length - failed) ++ ("/" : Text)
      ++ Text.ofNat inputs.length ++ (" files" : Text))
  return failed

end

end SongSheet.Batch
