import Dialogue.Files
import Dialogue.Settings.Value
import Dialogue.Trace

/-!
# Settings

What the command line reads from configuration: parameters of sampling, the format of traces, and
the chatfiles registered under model names. They come from built-in defaults, files and single
overrides. A later file wins over an earlier one, and an override wins over all files.

## Main definitions

* `Settings`: everything that can be configured
* `Layer`: a file or an override
* `Settings.load`: the settings of some layers
-/

namespace Dialogue

/-- A chatfile registered under a model name. -/
structure ModelEntry where
  name : String
  path : String
  deriving DecidableEq, Repr

/-- Everything that can be configured. -/
structure Settings where
  sampling : Sampling
  format : TraceFormat
  models : List ModelEntry

/-- Why settings cannot be loaded. -/
inductive SettingsError where
  | missingFile (path : String)
  | invalidFile (path : String)
  | invalidKey (key : String)
  | invalidValue
  /-- A key leads to a place that no array has. The program does not survive that. -/
  | misplaced (error : PlaceError)
  deriving DecidableEq, Repr

/-- The text of the error. -/
def SettingsError.message : SettingsError → String
  | .missingFile path => s!"configuration file \"{path}\" not found or not readable"
  | .invalidFile path => s!"configuration file \"{path}\" is no valid TOML"
  | .invalidKey key => s!"invalid key '{key}'"
  | .invalidValue => "a setting is missing or has no valid value"
  | .misplaced error => error.message

/-- Something that is laid over the settings so far. -/
inductive Layer where
  /-- A file that must be there. -/
  | file (path : String)
  /-- A file that may be missing. -/
  | optionalFile (path : String)
  /-- A single value, over all files. -/
  | override (key : String) (value : Setting)

/-- The file that is looked for in the working directory. -/
def Layer.localFile : Layer := .optionalFile "chatfile.toml"

namespace Settings

/-- The built-in settings. -/
def defaults : List (String × Setting) :=
  [("request", .table [("stream", .bool true)]), ("output", .table [("format", .string "simple")])]

/-- The path with the usual ending after its last name; nothing if it ends in no name. -/
def withEnding (path : String) : Option String :=
  let names := ((FileTree.parts path).reverse.dropWhile fun part => part = "" || part = ".").reverse
  match names.getLast? with
  | none => none
  | some name => if name = ".." then none else some ("/".intercalate names ++ ".toml")

/-- The bytes of the file at a path, or at the path with the usual ending. -/
def locate (files : FileSystem) (path : String) : Option (List UInt8) :=
  match files path with
  | .file bytes => some bytes
  | _ =>
    match (withEnding path).map files with
    | some (.file bytes) => some bytes
    | _ => none

/-- The text of the file at a path. A file that is no text counts as missing. -/
def fileText? (files : FileSystem) (path : String) : Option (List Char) :=
  (locate files path).bind Utf8.decodeAll?

/-- The entries that a file adds, and those of none if the file may be missing. -/
def readFile (files : FileSystem) (path : String) (required : Bool) :
    Except SettingsError (List (String × Setting)) :=
  match fileText? files path with
  | none => if required then .error (.missingFile path) else .ok []
  | some text =>
    match Toml.parse? text with
    | some entries => .ok (Setting.ofTomlEntries entries)
    | none => .error (.invalidFile path)

/-- Lays a file over a table. -/
def mergeFile (files : FileSystem) (path : String) (required : Bool) (target : Setting) :
    Except SettingsError Setting :=
  match readFile files path required with
  | .ok entries => (target.merge entries).mapError .misplaced
  | .error error => .error error

/-- Lays a layer over a table if it is a file. -/
def mergeLayer (files : FileSystem) (target : Setting) : Layer → Except SettingsError Setting
  | .file path => mergeFile files path true target
  | .optionalFile path => mergeFile files path false target
  | .override _ _ => .ok target

/-- Lays all files over a table, in order. -/
def mergeFiles (files : FileSystem) (layers : List Layer) (target : Setting) :
    Except SettingsError Setting :=
  layers.foldlM (mergeLayer files) target

/-- The overrides among some layers. -/
def overrides : List Layer → Except SettingsError (List (KeyPath × Setting))
  | [] => .ok []
  | .override key value :: layers =>
    match KeyPath.ofText? key with
    | some path => (overrides layers).map ((path, value) :: ·)
    | none => .error (.invalidKey key)
  | _ :: layers => overrides layers

/-- Applies overrides to a table, in order. -/
def applyOverrides (overrides : List (KeyPath × Setting)) (target : Setting) :
    Except SettingsError Setting :=
  (overrides.foldlM (fun target override => Setting.setPath override.1 override.2 target)
    target).mapError .misplaced

/-- The name of a format in any letter case. -/
def formatOfName? (name : String) : Option TraceFormat :=
  (TraceFormat.ofName name.toLower).toOption

/-- A format: its name, or a table that has its name as its only key. -/
def format? : Setting → Option TraceFormat
  | .string name => formatOfName? name
  | .table [(name, _)] => formatOfName? name
  | _ => none

/-- The parameters of sampling. -/
def sampling? (value : Setting) : Option Sampling :=
  match value.fields? ["seed", "temperature", "stream"] with
  | some [seed, temperature, stream] =>
    match Setting.optional? Setting.int64? seed, Setting.optional? Setting.float? temperature,
      Setting.required? Setting.bool? stream with
    | some seed, some temperature, some stream => some ⟨seed, temperature, stream⟩
    | _, _, _ => none
  | _ => none

/-- The format of traces. -/
def output? (value : Setting) : Option TraceFormat :=
  match value.fields? ["format"] with
  | some [format] => Setting.required? format? format
  | _ => none

/-- One registered chatfile. -/
def model? (value : Setting) : Option ModelEntry :=
  match value.fields? ["name", "path"] with
  | some [name, path] =>
    match Setting.required? Setting.text? name, Setting.required? Setting.text? path with
    | some name, some path => some ⟨name, path⟩
    | _, _ => none
  | _ => none

/-- The registered chatfiles; none if nothing is said of them. -/
def models? : Option Setting → Option (List ModelEntry)
  | none => some []
  | some (.array items) => items.mapM model?
  | some _ => none

/-- The settings that a table holds. -/
def ofSetting? (value : Setting) : Option Settings :=
  match Setting.required? sampling? (value.entries.lookup "request"),
    Setting.required? output? (value.entries.lookup "output"),
    models? (value.entries.lookup "models") with
  | some sampling, some format, some models => some ⟨sampling, format, models⟩
  | _, _, _ => none

/-- The table that some layers make of the built-in one. The keys of overrides are read before any
file is, and their values are set after all of them. -/
def merged (files : FileSystem) (layers : List Layer) : Except SettingsError Setting :=
  match overrides layers with
  | .error error => .error error
  | .ok overrides =>
    match mergeFiles files layers (.table defaults) with
    | .error error => .error error
    | .ok target => applyOverrides overrides target

/-- The settings of some layers over the built-in ones. -/
def load (files : FileSystem) (layers : List Layer) : Except SettingsError Settings :=
  match merged files layers with
  | .error error => .error error
  | .ok value =>
    match ofSetting? value with
    | some settings => .ok settings
    | none => .error .invalidValue

end Settings

end Dialogue
