import EndpointStubs.Command.Run

/-!
# The program

Reads the places that the command line names into a value, runs the command on
it, writes what is new or changed, and prints.
-/

namespace EndpointStubs

/-- The text of the path to a location, as far as the system can name it. -/
def locationText (location : Location) : String :=
  "/" ++ "/".intercalate (location.map LooseText.shown)

def dirEntry (location : Location) : IO.FS.DirEntry where
  root := locationText location.dropLast
  fileName := LooseText.shown (location.getLast?.getD [])

/-- Everything at and below a location. What cannot be read is taken to be absent. -/
partial def loadEntries (location : Location) : IO (List (Location × Entry)) := do
  let path := (dirEntry location).path
  try
    if ← path.isDir then
      let below ← (← path.readDir).toList.mapM fun child ↦
        loadEntries (location ++ [LooseText.ofString child.fileName])
      return (location, .directory) :: below.flatten
    else if ← path.pathExists then
      return [(location, .file (← IO.FS.readBinFile path))]
    else return []
  catch _ => return []

/-- The places that an argument may name: the whole argument, and a value joined to an option. -/
def placesIn (argument : String) : List Path :=
  let chars := argument.toList
  [chars, (chars.dropWhile (· != '=')).drop 1, chars.drop 2].filterMap fun text ↦
    if text.isEmpty then none else some (.ofText (.ofChars text))

/-- The location a path names if nothing on the way is a link. -/
def plainLocation (home : Location) (path : Path) : Location :=
  path.components.foldl
    (fun location name ↦
      if name = (".." : LooseText) then location.dropLast else location ++ [name])
    (if path.isRelative then home else [])

/-- The file system as far as the places reach; the directories on the way are in it. -/
def loadFileSystem (home : Location) (places : List Path) : IO FileSystem := do
  let locations := (places.map (plainLocation home)).eraseDups
  let loaded ← locations.mapM loadEntries
  let ancestors := (home :: locations).flatMap fun location ↦
    (List.range location.length).map fun n ↦ location.take n
  let mut directories := []
  for ancestor in (home :: ancestors).eraseDups do
    if !ancestor.isEmpty then
      if ← (dirEntry ancestor).path.isDir then
        directories := directories ++ [(ancestor, Entry.directory)]
  return ⟨.ofList (directories ++ loaded.flatten), home⟩

/-- Carries a change out on disk. -/
def applyChange : Location × Entry → IO Unit
  | (location, .directory) => IO.FS.createDirAll (dirEntry location).path
  | (location, .file content) => IO.FS.writeBinFile (dirEntry location).path content

def SettingsError.message : SettingsError → String
  | unreadable error => error.message
  | yaml error => error.message
  | notMapping path kind => notMappingMessage path kind
  | keyNotText => "keys must be texts"
  | pathOverridden => "the path of the settings file is given twice"
  | fields errors => ", ".intercalate (errors.map fun e ↦ e.location ++ ": " ++ e.fault.label)

def Failure.message : Failure → String
  | usage error => error.message
  | settings error => "Invalid value for --config: " ++ error.message
  | search (.pattern error) => error.message
  | search (.place error) => error.message
  | search (.unreadable error) => error.message
  | search (.scan .tooDeep) => "the types of a source stand too deep within each other"
  | check .unnamedVariable => "a path variable has no name"
  | stub _ => "the model cannot be rendered"
  | file error => error.message

def program (arguments : List String) : IO UInt32 := do
  let cwd := Path.ofString (← IO.currentDir).toString
  let home := cwd.components
  let named := arguments.flatMap placesIn
  let first ← loadFileSystem home (defaultSettingsFile :: named)
  let settings : Settings :=
    match Invocation.parse first arguments with
    | .error _ => {}
    | .ok invocation => (loadSettings first invocation.config invocation.overrides).toOption.getD {}
  let before ←
    loadFileSystem home (defaultSettingsFile :: .ofText settings.outputDirectory :: named)
  let outcome := run .standard before arguments
  for line in outcome.reports do
    IO.eprintln line.shown
  (before.changes outcome.fileSystem).forM applyChange
  for line in outcome.results do
    IO.println line.shown
  if let some failure := outcome.failure then
    IO.eprintln ("Error: " ++ failure.message)
  return UInt32.ofNat outcome.exitCode

end EndpointStubs

def main (arguments : List String) : IO UInt32 :=
  EndpointStubs.program arguments
