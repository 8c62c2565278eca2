import EndpointStubs.Command.Arguments
import EndpointStubs.Files.Search
import EndpointStubs.Round
import EndpointStubs.Text.ControlSequence

/-!
# Running commands

A command finds and scans the sources, builds the model, and then writes the
stubs, shows the model, or checks it. Running is a function from the file system
before to an outcome: what is printed, the file system after, and what went
wrong, if anything did. What was printed and written before an error stays.
-/

namespace EndpointStubs

/-- Why a command ended early. -/
inductive Failure where
  | usage (error : UsageError)
  | settings (error : SettingsError)
  | search (error : SearchError)
  | check (error : CheckError)
  | stub (error : StubError)
  | file (error : FileError)
  deriving DecidableEq, Repr

/-- Faults of the text and values that do not exist are told to the user; the other faults
of a YAML text end the program. -/
def Yaml.Error.isReported : Yaml.Error → Bool
  | malformed | noSuchCharacter | notInteger .. | tooManyDigits _ | notDecimal _ | outOfRange _
  | zoneTooFar _ => true
  | escapeTooLarge | tooManyGroups | noNumber | notBool | notTime | timeInMapping | endless
  | tooDeep => false

/-- Settings that are wrong are a fault of the command line that names them; that
their file cannot be opened, or has a key that is no text, is not. -/
def SettingsError.isUsage : SettingsError → Bool
  | unreadable .undecodable | unreadable .nullInEncoding | unreadable .surrogateInEncoding => true
  | unreadable (.file error) => error == .nullCharacter || error == .unencodable
  | unreadable .refused | unreadable (.unknownEncoding _) | keyNotText | pathOverridden => false
  | yaml error => error.isReported
  | notMapping .. | fields _ => true

def Failure.exitCode : Failure → Nat
  | usage (.noPath _) => 1
  | usage _ => 2
  | settings error => if error.isUsage then 2 else 1
  | search _ | check _ | stub _ | file _ => 1

structure Outcome where
  fileSystem : FileSystem
  /-- The lines printed as results. -/
  results : List LooseText := []
  /-- The lines printed about the work. -/
  reports : List LooseText := []
  failure : Option Failure := none
  /-- The endpoints have problems. -/
  hasProblems : Bool := false

namespace Outcome

def exitCode (outcome : Outcome) : Nat :=
  match outcome.failure with
  | some failure => failure.exitCode
  | none => if outcome.hasProblems then 1 else 0

def fail (outcome : Outcome) (failure : Failure) : Outcome :=
  { outcome with failure := some failure }

def print (outcome : Outcome) (lines : List LooseText) : Outcome :=
  { outcome with results := outcome.results ++ lines.map Text.withoutControlSequences }

/-- A diagnostic as a log line, without the time. -/
def logLine (d : Diagnostic) : LooseText :=
  d.level.label ++ " - " ++ d.source ++ " - " ++ d.message

/-- Logs warnings, and everything else too if asked to. -/
def log (outcome : Outcome) (verbose : Bool) (diagnostics : List Diagnostic) : Outcome :=
  { outcome with
    reports := outcome.reports ++
      (diagnostics.filter fun d ↦ verbose || d.isWarning).map logLine }

end Outcome

/-- The sources below all the paths, path by path. -/
def findAll (runtime : Runtime) (fs : FileSystem) (settings : Settings) (paths : List Path) :
    Except SearchError (List Path) := do
  let found ← paths.mapM fun path ↦
    findSources runtime fs path settings.sourcePattern settings.encoding
  return found.flatten

/-- A file to write; the text is missing if it holds surrogates and cannot be written. -/
structure Draft where
  path : Path
  text : Option String
  deriving DecidableEq, Repr

/-- What is written so far. -/
structure Writing where
  fileSystem : FileSystem
  written : List Path := []
  failure : Option FileError := none

/-- Writes a file and the directories on the way to it. A text that cannot be written leaves
an empty file. -/
def writeFile (writing : Writing) (draft : Draft) : Writing :=
  match writing.fileSystem.makeDirectory draft.path.parent with
  | (fs, some e) => { writing with fileSystem := fs, failure := some e }
  | (fs, none) =>
    match fs.write draft.path (draft.text.getD "").toUTF8, draft.text with
    | .error e, _ => { writing with fileSystem := fs, failure := some e }
    | .ok fs, none => { writing with fileSystem := fs, failure := some .unencodable }
    | .ok fs, some _ =>
      { writing with fileSystem := fs, written := writing.written ++ [draft.path] }

/-- Writes the files one by one until one cannot be written. -/
def writeFiles (writing : Writing) : List Draft → Writing
  | [] => writing
  | draft :: rest =>
    let writing := writeFile writing draft
    if writing.failure.isSome then writing else writeFiles writing rest

/-- The name of a generated file with the suffix as it is. The file is named with the suffix as
it is displayed, which has as many characters. -/
def withSuffix (name : String) (suffix : LooseText) : LooseText :=
  let ending := suffix ++ ".java"
  LooseText.ofChars (name.toList.take (name.length - ending.length)) ++ ending

/-- The files to write: all stubs, and then the bases. -/
def Generated.drafts (settings : Settings) (generated : Generated) : List Draft :=
  let draft (suffix : LooseText) (text : Option String) (name : String) : Draft :=
    ⟨(Path.ofText settings.outputDirectory).join (.ofText (withSuffix name suffix)), text⟩
  generated.stubs.entries.map (fun (name, text) ↦
    draft settings.stubSuffix (if settings.hasLooseSuffix then none else some text) name) ++
  generated.bases.entries.map fun (name, text) ↦
    draft settings.baseSuffix (if settings.baseSuffix.text?.isNone then none else some text) name

/-! ## Commands -/

def runGenerate (settings : Settings) (verbose : Bool) (facts : List Fact) (model : Model)
    (outcome : Outcome) : Outcome :=
  let outcome := outcome.log verbose (generateDiagnostics settings.suffixes facts model)
  match generate settings.suffixes facts model with
  | .error e => outcome.fail (.stub e)
  | .ok generated =>
    let drafts := (generated.map (·.drafts settings)).getD []
    let writing := writeFiles ⟨outcome.fileSystem, [], none⟩ drafts
    let outcome := { outcome with fileSystem := writing.fileSystem }.log verbose
      (writing.written.map fun (path : Path) ↦ .written path.text)
    match writing.failure with
    | some e => outcome.fail (.file e)
    | none =>
      let found : LooseText :=
        "Found " ++ toString model.controllers.entries.length ++ " controllers."
      let created (path : Path) : LooseText := "  Created " ++ path.text
      let summary : LooseText :=
        "Generated " ++ toString writing.written.length ++ " files in " ++ settings.outputDirectory
      outcome.print (found :: writing.written.map created ++ [summary])

def runModel (output : Option Path) (model : Model) (outcome : Outcome) : Outcome :=
  match output with
  | none => outcome.print [model.text]
  | some path =>
    let writing := writeFile ⟨outcome.fileSystem, [], none⟩ ⟨path, some (model.text ++ "\n")⟩
    let outcome := { outcome with fileSystem := writing.fileSystem }
    match writing.failure with
    | some e => outcome.fail (.file e)
    | none => outcome.print ["Model saved to " ++ path.text]

def runCheck (model : Model) (outcome : Outcome) : Outcome :=
  match model.problems with
  | .error e => outcome.fail (.check e)
  | .ok problems =>
    if problems.isEmpty then outcome.print ["All endpoints OK."]
    else
      { outcome with hasProblems := true }.print
        (problems.entries.map fun (key, ps) ↦ (key ++ ": " ++ problemText ps : String))

/-- The settings that the options of the command line override. -/
def Invocation.overrides (invocation : Invocation) : List (String × Document) :=
  let output :=
    if invocation.command = .generate then
      invocation.output.toList.map fun path ↦ ("output_dir", Document.text path.text)
    else []
  output ++ invocation.order.toList.map fun order ↦
    ("path_variable_order", Document.text order.label)

/-- Runs a command from its settings on. -/
def runWith (runtime : Runtime) (settings : Settings) (invocation : Invocation)
    (fs : FileSystem) : Outcome :=
  let outcome : Outcome := { fileSystem := fs }
  match findAll runtime fs settings invocation.sources with
  | .error e => outcome.fail (.search e)
  | .ok files =>
    let outcome := { outcome with
      reports := ["Scanning " ++ toString files.length ++ " controller source(s)..."] }
    match scanFiles runtime fs settings.encoding files with
    | .error e => outcome.fail (.search e)
    | .ok scanned =>
      let order := settings.variableOrder
      let model := roundModel order scanned.facts
      let outcome := outcome.log invocation.verbose
        (scanned.diagnostics ++ roundDiagnostics order scanned.facts)
      match invocation.command with
      | .generate => runGenerate settings invocation.verbose scanned.facts model outcome
      | .model => runModel invocation.output model outcome
      | .check => runCheck model outcome

/-- Runs a command line. -/
def run (runtime : Runtime) (fs : FileSystem) (arguments : List String) : Outcome :=
  match Invocation.parse fs arguments with
  | .error e => { fileSystem := fs, failure := some (.usage e) }
  | .ok invocation =>
    match loadSettings fs invocation.config invocation.overrides with
    | .error e => { fileSystem := fs, failure := some (.settings e) }
    | .ok settings => runWith runtime settings invocation fs

end EndpointStubs
