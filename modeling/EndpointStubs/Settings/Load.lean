import EndpointStubs.Files.System
import EndpointStubs.Runtime
import EndpointStubs.Settings.OfDocument
import EndpointStubs.Yaml.Load

/-!
# Loading settings

Settings come from a YAML file, and choices made elsewhere override what the
file says. If no file is named, the one with the usual name in the working
directory counts, if it is there.
-/

namespace EndpointStubs

/-- Why the text of a file cannot be had. -/
inductive ReadError where
  | file (error : FileError)
  /-- The bytes are no text in the encoding. -/
  | undecodable
  /-- The codec of the encoding gives up for a reason of its own. -/
  | refused
  | unknownEncoding (name : String)
  /-- The name of the encoding holds a null character. -/
  | nullInEncoding
  /-- The name of the encoding holds a surrogate. -/
  | surrogateInEncoding
  deriving DecidableEq, Repr

def ReadError.message : ReadError → String
  | file error => error.message
  | undecodable => "the text cannot be decoded"
  | refused => "the codec gives up"
  | unknownEncoding name => "unknown encoding: " ++ name
  | nullInEncoding => "embedded null character"
  | surrogateInEncoding => "a surrogate cannot be encoded"

/-- The text that a codec makes of a file. -/
def FileSystem.decodeText (fs : FileSystem) (path : Path) (codec : Codec) :
    Except ReadError (List Char) :=
  match fs.read path with
  | .error e => .error (.file e)
  | .ok content =>
    match codec.decode content with
    | .error .malformed => .error .undecodable
    | .error .refused => .error .refused
    | .ok text => .ok (unifyLineEnds text)

/-- The text of a file. That the encoding is unknown shows only once the file is open. -/
def FileSystem.readText (runtime : Runtime) (fs : FileSystem) (path : Path)
    (encoding : LooseText) : Except ReadError (List Char) :=
  match encoding.text? with
  | none => .error .surrogateInEncoding
  | some encoding =>
    if encoding.contains '\x00' then .error .nullInEncoding
    else
      match fs.read path, runtime.codec? encoding with
      | .error e, _ => .error (.file e)
      | .ok _, none => .error (.unknownEncoding encoding)
      | .ok _, some codec => fs.decodeText path codec

inductive SettingsError where
  | unreadable (error : ReadError)
  | yaml (error : Yaml.Error)
  /-- The document is something else than a mapping. -/
  | notMapping (path : LooseText) (kind : String)
  /-- A key of the mapping is not a text. -/
  | keyNotText
  /-- An override has the name that stands for the path of the file. -/
  | pathOverridden
  | fields (errors : List FieldError)
  deriving DecidableEq, Repr

def SettingsError.notMappingMessage (path : LooseText) (kind : String) : String :=
  path.shown ++ ": expected a mapping, got " ++ kind

def defaultSettingsFile : Path :=
  .ofText "stubgen.yaml"

/-- The entries of the settings file; a blank document has none. -/
def settingsEntries (fs : FileSystem) (path : Path) :
    Except SettingsError (List (Document × Document)) :=
  match fs.decodeText path Encoding.utf8.codec with
  | .error e => .error (.unreadable e)
  | .ok text =>
    match Yaml.load text with
    | .error e => .error (.yaml e)
    | .ok document =>
      match document with
      | .mapping entries => .ok entries
      | other =>
        if other.isBlank then .ok [] else .error (.notMapping path.text other.kindName)

/-- The settings of a file under the overrides; an override that is null does not count. -/
def loadSettings (fs : FileSystem) (path : Option Path) (overrides : List (String × Document)) :
    Except SettingsError Settings := do
  if overrides.any fun (name, _) ↦ name == "file_path" then throw .pathOverridden
  let path := path <|> if fs.isFile defaultSettingsFile then some defaultSettingsFile else none
  let entries ←
    match path with
    | none => pure []
    | some path => settingsEntries fs path
  if entries.any fun (key, _) ↦ key.text?.isNone then .error .keyNotText
  else
    let fields := entries.filterMap fun (key, value) ↦
      (key.text?.bind LooseText.text?).map fun name ↦ (name, value)
    let overrides := overrides.filter fun (_, value) ↦
      match value with
      | .null => false
      | _ => true
    (Settings.ofFields (fields ++ overrides)).mapError .fields

end EndpointStubs
