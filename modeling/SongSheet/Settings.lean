import SongSheet.Yaml

/-!
# Settings

How a batch of sheets is converted. There are defaults, a settings file may replace some of them,
and the command line may replace some again; a null replaces nothing.

`merge` lays one table over another: where both have a table under a key, these are merged, and
otherwise the upper value counts unless it is null. The values are only checked where they are used,
apart from the format and the encoding, which have to be set.
-/

set_option autoImplicit false

namespace SongSheet

open Yaml

/-- The settings of a batch. -/
structure Settings where
  /-- The label of the format to write. -/
  outputFormat : Value := ("sky-studio-json" : Text)
  /-- The file with the key layout to write for. -/
  keyLayout : Value := .null
  /-- The encoding of the files that are read. -/
  encoding : Value := ("utf-8" : Text)
  /-- The directory that files are written to. -/
  outputDir : Value := ("output" : Text)
  /-- Failures are written to files too. -/
  errorLogs : Value := .scalar (.bool true)
  /-- Every step is logged. -/
  verbose : Value := .scalar (.bool false)

/-- Why settings are refused. -/
inductive SettingsError where
  /-- The settings file has no value. -/
  | file (error : Yaml.Error)
  /-- The settings file holds something other than a table. -/
  | fileShape
  /-- A section is no table, or has a key that no setting has. -/
  | sectionShape
  | noFormat
  | noEncoding
  deriving DecidableEq, Repr

namespace Settings

mutual

/-- One table laid over another. -/
def merge (base : Table) : List (Scalar × Value) → Table
  | [] => base
  | (key, value) :: rest => merge (mergeEntry base key value) rest

/-- One entry laid over a table. -/
def mergeEntry (base : Table) (key : Scalar) : Value → Table
  | .scalar .null => base
  | .table upper =>
    match base.at? key with
    | some (.table lower) => base.put key (.table (merge lower upper))
    | _ => base.put key (.table upper)
  | value => base.put key value

end

/-- The names in the section on conversion. -/
def conversionNames : List Text :=
  ["output_format", "key_layout", "encoding", "output_dir", "error_logs"].map Text.ofString

/-- The names in the section on logging. -/
def loggingNames : List Text := [Text.ofString "verbose"]

/-- A table of named values. -/
def named (entries : List (String × Value)) : Table :=
  entries.map fun (name, value) => (.text (Text.ofString name), value)

/-- Settings as a table of two sections. -/
def toTable (s : Settings) : Table :=
  named
    [("conversion", .table (named
        [("output_format", s.outputFormat),
          ("key_layout", s.keyLayout),
          ("encoding", s.encoding),
          ("output_dir", s.outputDir),
          ("error_logs", s.errorLogs)])),
      ("logging", .table (named [("verbose", s.verbose)]))]

/-- A key that is one of some names. -/
def isNamed (names : List Text) : Scalar → Bool
  | .text t => names.elem t
  | _ => false

/-- The section of a name, which may be missing but has to know all its keys. -/
def readSection (names : List Text) (name : Text) (t : Table) : Except SettingsError Table :=
  match ((t.at? name).getD .null).orElse (.table []) with
  | .table entries =>
    if entries.all fun (key, _) => isNamed names key then .ok entries else .error .sectionShape
  | _ => .error .sectionShape

/-- The settings that a table of sections gives; what is missing takes its default. -/
def ofTable (t : Table) : Except SettingsError Settings := do
  let conversion ← readSection conversionNames "conversion" t
  let get (name : Text) (default : Value) : Value := (conversion.at? name).getD default
  let defaults : Settings := {}
  let outputFormat := get "output_format" defaults.outputFormat
  let encoding := get "encoding" defaults.encoding
  if !outputFormat.isSet then .error .noFormat
  else if !encoding.isSet then .error .noEncoding
  else
    let logging ← readSection loggingNames "logging" t
    return {
      outputFormat
      keyLayout := get "key_layout" defaults.keyLayout
      encoding
      outputDir := get "output_dir" defaults.outputDir
      errorLogs := get "error_logs" defaults.errorLogs
      verbose := (logging.at? ("verbose" : Text)).getD defaults.verbose }

/-- The table that a settings file holds; one that says nothing holds the empty table. -/
def fileTable (t : Text) : Except SettingsError Table :=
  match Yaml.read t with
  | .error e => .error (.file e)
  | .ok value =>
    match value.orElse (.table []) with
    | .table entries => .ok entries
    | _ => .error .fileShape

/-- The settings of a table, if there is one, over the defaults and under further values. -/
def ofLayers (file : Option Table) (overrides : Table) : Except SettingsError Settings :=
  ofTable (merge (merge (toTable {}) (file.getD [])) overrides)

/-- The settings from the text of a settings file, if there is one, under further values. -/
def load (file : Option Text) (overrides : Table) : Except SettingsError Settings := do
  ofLayers (← file.mapM fileTable) overrides

/-- The settings file that comes with the program: every default, spelled out. -/
def shipped : Text :=
  Text.join "\n" <| List.map Text.ofString
    ["conversion:",
      "  output_format: sky-studio-json",
      "  key_layout: null",
      "  encoding: utf-8",
      "  output_dir: output",
      "  error_logs: true",
      "",
      "logging:",
      "  verbose: false",
      ""]

end Settings

end SongSheet
