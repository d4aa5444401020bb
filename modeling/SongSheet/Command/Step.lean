import SongSheet.Encoding
import SongSheet.Host
import SongSheet.Midi.File
import SongSheet.Settings

/-!
# Steps of a command

Reading a text, writing a text and writing to the log, as steps that may stop a command. A stop is
either a refusal, which is reported as an error and ends the program with an exit code, or a fault,
which nothing in the program answers for.
-/

set_option autoImplicit false

namespace SongSheet.Command

/-- What no part of the program answers for. -/
inductive Fault where
  | settings (error : SettingsError)
  /-- A setting is not a text where one is needed. -/
  | settingType
  | unknownEncoding
  | undecodable (error : DecodeError)
  /-- The octets of a file have not the form of the encoding. -/
  | textForm
  /-- A path or the name of an encoding has a null character. -/
  | nullCharacter
  /-- A text with surrogates has to be written, or a path has some. -/
  | unencodable
  | track (error : Midi.TrackError)
  | midiFile (error : Midi.FileError)
  deriving DecidableEq

/-- Why a command does not go on. -/
inductive Stop where
  /-- A failure that is reported in these words. -/
  | refused (message : Text)
  | fault (fault : Fault)
  deriving DecidableEq

/-- Why a file gives no text. -/
inductive ReadFailure where
  | host (error : HostError)
  | undecodable (error : DecodeError)
  deriving DecidableEq

/-- The words for a file that gives no text. -/
def ReadFailure.message : ReadFailure → Text
  | host e => e.message
  | undecodable e => e.message

section

variable {m : Type → Type} [Monad m] [Host m]

/-- An action of the host on a path. No host takes a path that names nothing. -/
def attempt {α : Type} (path : Path) (action : m (Except HostError α)) :
    ExceptT Stop m (Except HostError α) :=
  match path.fault? with
  | some .surrogate => throw (.fault .unencodable)
  | some .nullCharacter => throw (.fault .nullCharacter)
  | none => (liftM action : ExceptT Stop m (Except HostError α))

/-- An action of the host on a path, whose failure stops the command. -/
def ask {α : Type} (path : Path) (action : m (Except HostError α)) : ExceptT Stop m α := do
  match ← attempt path action with
  | .ok value => return value
  | .error e => throw (.refused e.message)

/-- Writes to the log. -/
def log (source : LogSource) (level : LogLevel) (message : Text) : ExceptT Stop m Unit :=
  (liftM (Host.log ⟨source, level, message⟩ : m Unit) : ExceptT Stop m Unit)

/-- Writes to the log if all is to be logged. -/
def logDetail (verbose : Bool) (source : LogSource) (message : Text) : ExceptT Stop m Unit :=
  if verbose then log source .debug message else pure ()

/-- A setting that has to be a text. -/
def textSetting (value : Yaml.Value) : ExceptT Stop m Text :=
  match value.text? with
  | some t => pure t
  | none => throw (.fault .settingType)

/-- A setting that has to be the name of an encoding. The host takes no name with a null character
or with surrogates. -/
def encodingSetting (value : Yaml.Value) : ExceptT Stop m Text := do
  let name ← textSetting value
  if name.any CodePoint.isSurrogate then throw (.fault .unencodable)
  else if name.any (·.val = 0) then throw (.fault .nullCharacter)
  else return name

/-- The text of a file in an encoding. The end of a line is a line feed, whatever it was. The name
of the encoding is looked up when the file is there. -/
def readText (encoding : Yaml.Value) (path : Path) : ExceptT Stop m (Except ReadFailure Text) := do
  let name ← encodingSetting encoding
  match ← attempt path (Host.read path) with
  | .error e => return .error (.host e)
  | .ok octets =>
    match Encoding.ofName? name with
    | none => throw (.fault .unknownEncoding)
    | some encoding =>
      match encoding.decode octets with
      | .ok t => return .ok (Text.unixLines t)
      | .error (.octets e) => return .error (.undecodable e)
      | .error .form => throw (.fault .textForm)

/-- The text of a file without which the command cannot go on. -/
def needText (encoding : Yaml.Value) (path : Path) : ExceptT Stop m Text := do
  match ← readText encoding path with
  | .ok t => return t
  | .error (.host e) => throw (.refused e.message)
  | .error (.undecodable e) => throw (.fault (.undecodable e))

/-- Writes a text to a file. The file is made before the text is looked at, so a text that has no
octets leaves an empty file. -/
def writeText (path : Path) (t : Text) : ExceptT Stop m Unit :=
  match Utf8.encode t with
  | some octets => ask path (Host.write path octets)
  | none => do
    ask path (Host.write path [])
    throw (.fault .unencodable)

end

end SongSheet.Command
