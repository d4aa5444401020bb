import SongSheet.Host.Path

/-!
# Hosts

What a command needs from its surroundings: files, a log and a place to print to. `Host m` says that
the monad `m` has them. The commands are written for any host; one host is a pure disk
(`SongSheet.Host.Disk`), another is the machine that the program runs on.
-/

set_option autoImplicit false

namespace SongSheet

/-- Why a file or a directory cannot be used. -/
inductive HostCause where
  | missing
  | alreadyThere
  | notDirectory
  | isDirectory
  | nameTooLong
  | other (number : Nat) (words : Text)
  deriving DecidableEq, Repr

/-- The number of a cause. -/
def HostCause.number : HostCause → Nat
  | missing => 2
  | alreadyThere => 17
  | notDirectory => 20
  | isDirectory => 21
  | nameTooLong => 36
  | other number _ => number

/-- The words for a cause. -/
def HostCause.words : HostCause → Text
  | missing => "No such file or directory"
  | alreadyThere => "File exists"
  | notDirectory => "Not a directory"
  | isDirectory => "Is a directory"
  | nameTooLong => "File name too long"
  | other _ words => words

/-- A failure of the host with the path that was asked for. -/
structure HostError where
  cause : HostCause
  path : Path
  deriving DecidableEq, Repr

/-- The words for a failure of the host. -/
def HostError.message (e : HostError) : Text :=
  ("[Errno " : Text) ++ Text.ofNat e.cause.number ++ ("] " : Text) ++ e.cause.words
    ++ (": " : Text) ++ e.path.display.quoted

/-- How much a record of the log matters. -/
inductive LogLevel where
  | debug
  | info
  | error
  deriving DecidableEq, Repr

/-- The word for a level. -/
def LogLevel.word : LogLevel → Text
  | debug => "DEBUG"
  | info => "INFO"
  | error => "ERROR"

/-- The parts of the program that write to the log. -/
inductive LogSource where
  | commandLine
  | registry
  | placement
  | midi
  deriving DecidableEq, Repr

/-- The name of a part in the log. -/
def LogSource.name : LogSource → Text
  | commandLine => "src.sheets.cli"
  | registry => "src.sheets.convertor"
  | placement => "src.sheets.music"
  | midi => "src.sheets.midi_export"

/-- A record of the log. -/
structure LogRecord where
  source : LogSource
  level : LogLevel
  message : Text
  deriving DecidableEq, Repr

/-- A record as a line. -/
def LogRecord.line (r : LogRecord) : Text :=
  r.source.name ++ (" - " : Text) ++ r.level.word ++ (" - " : Text) ++ r.message ++ ("\n" : Text)

/-- A monad with files, a log and a place to print to. -/
class Host (m : Type → Type) where
  /-- The octets of a file. -/
  read : Path → m (Except HostError (List UInt8))
  /-- Makes a file of octets, in place of one that is there. -/
  write : Path → List UInt8 → m (Except HostError Unit)
  /-- Makes a directory and those that it is in. One that is there already is left alone. -/
  makeDirectory : Path → m (Except HostError Unit)
  /-- Whether a file or a directory is there. -/
  isPresent : Path → m (Except HostError Bool)
  /-- Adds a record to the log. -/
  log : LogRecord → m Unit
  /-- Prints a text. -/
  print : Text → m Unit

end SongSheet
