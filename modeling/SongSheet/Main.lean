import SongSheet.Command

/-!
# The program

The machine as a host, and `main`. A settings file beside the program is used for converting where
the arguments name none.
-/

set_option autoImplicit false

namespace SongSheet.Machine

/-- The cause of a failure of the machine. -/
def cause : IO.Error → HostCause
  | .noFileOrDirectory .. => .missing
  | .alreadyExists .. => .alreadyThere
  | .inappropriateType _ number words =>
    if number = 20 then .notDirectory
    else if number = 21 then .isDirectory
    else .other number.toNat words
  | .permissionDenied _ number words | .resourceExhausted _ number words
  | .invalidArgument _ number words | .noSuchThing _ number words => .other number.toNat words
  | .otherError number words => .other number.toNat words
  | e => .other 5 (toString e)

/-- The path as the machine takes it. -/
def place (p : Path) : String := p.display.toString

/-- An action that may fail. -/
def attempt {α : Type} (p : Path) (action : IO α) : IO (Except HostError α) := do
  try
    return .ok (← action)
  catch e =>
    return .error ⟨cause e, p⟩

/-- Whether a directory is there. -/
def isDirectory (p : Path) : IO Bool := do
  match ← attempt p (IO.FS.readBinFile (place p)) with
  | .error ⟨.isDirectory, _⟩ => return true
  | _ => return false

/-- Makes a directory, and those that it is in where they are missing. -/
def makeDirectory (p : Path) : IO (Except HostError Unit) := do
  if ← isDirectory p then return .ok ()
  else
    match ← attempt p (IO.FS.createDir (place p)) with
    | .error ⟨.missing, _⟩ => attempt p (IO.FS.createDirAll (place p))
    | answer => return answer

instance : Host IO where
  read p := attempt p do
    return (← IO.FS.readBinFile (place p)).toList
  write p octets := attempt p (IO.FS.writeBinFile (place p) (ByteArray.mk octets.toArray))
  makeDirectory := makeDirectory
  isPresent p := do
    try
      let _ ← IO.FS.Handle.mk (place p) .read
      return .ok true
    catch _ =>
      return .ok false
  log r := IO.eprint r.line.toString
  print t := IO.print t.toString

/-- How the program is used. -/
def usage : String :=
  String.intercalate "\n" [
    "usage: sheets [-h] [--version] [-v] convert|formats|to-midi ...",
    "",
    "convert INPUT... [--to LABEL] [--output-dir DIR] [--key-layout FILE]",
    "                 [--encoding NAME] [--config FILE] [-v]",
    "formats",
    "to-midi INPUT --output FILE [--base-pitch N] [--encoding NAME]",
    ""]

/-- The settings file beside the program. -/
def settingsBeside (program : Text) : Path := (Path.ofText program).parent.child "config.yaml"

/-- The words for a fault. -/
def faultText : Command.Fault → String
  | .settings (.file .malformed) => "the settings file is not YAML"
  | .settings (.file _) => "a scalar in the settings file has no value of its kind"
  | .settings .fileShape => "the settings file is not a mapping"
  | .settings .sectionShape => "a section of the settings file has a wrong shape"
  | .settings .noFormat => "output_format must not be empty"
  | .settings .noEncoding => "encoding must not be empty"
  | .settingType => "a setting is not a text"
  | .unknownEncoding => "unknown encoding"
  | .undecodable e => e.message.toString
  | .textForm => "the text has not the form of the encoding"
  | .nullCharacter => "a name has a null character"
  | .unencodable => "a text with surrogates cannot be written"
  | .track _ => "the score cannot be a MIDI track"
  | .midiFile _ => "the track cannot be a MIDI file"

end SongSheet.Machine

open SongSheet in
/-- Runs the program with the arguments of the machine. -/
def main (arguments : List String) : IO UInt32 := do
  let given := arguments.map Text.ofString
  let beside := Machine.settingsBeside (Text.ofString (toString (← IO.appPath)))
  let given :=
    match ← (Host.isPresent beside : IO (Except HostError Bool)) with
    | .ok true => Command.withSettingsFile beside.display given
    | _ => given
  match ← (Command.run given : IO Command.Outcome) with
  | .finished code => return code.toUInt32
  | .left .version => return 0
  | .left .help =>
    IO.print Machine.usage
    return 0
  | .nothingAsked =>
    IO.print Machine.usage
    return 1
  | .left .wrongUsage =>
    IO.eprint Machine.usage
    return 2
  | .fault fault =>
    IO.eprintln (Machine.faultText fault)
    return 1
