import EndpointStubs.Files.Path
import EndpointStubs.Registry

/-!
# File systems

A file system is a value: the files and directories below a root, each at its
location, and the working directory. A location is the sequence of names from
the root, without any dots.
-/

namespace EndpointStubs

abbrev Location := List LooseText

inductive Entry where
  | file (content : ByteArray)
  | directory

instance : DecidableEq Entry
  | .file content, .file other =>
    @decidable_of_decidable_of_iff _ _ (ByteArray.instDecidableEq content other)
      (by rw [Entry.file.injEq])
  | .directory, .directory => isTrue rfl
  | .file _, .directory => isFalse nofun
  | .directory, .file _ => isFalse nofun

/-- Why a file cannot be used. -/
inductive FileError where
  | notFound
  | isDirectory
  | notDirectory
  | alreadyExists
  /-- The path, or one of its names, is longer than that of any file. -/
  | tooLong
  /-- The path holds a null character, so that it cannot even be looked up. -/
  | nullCharacter
  /-- The path, or the text to write, holds a surrogate that no byte stands for. -/
  | unencodable
  deriving DecidableEq, Repr

def FileError.message : FileError → String
  | notFound => "no such file or directory"
  | isDirectory => "is a directory"
  | notDirectory => "not a directory"
  | alreadyExists => "file exists"
  | tooLong => "file name too long"
  | nullCharacter => "embedded null byte"
  | unencodable => "a surrogate cannot be encoded"

/-- No file has a name of more bytes. -/
def longestName : Nat := 255

/-- No path of more bytes is looked up. -/
def longestPath : Nat := 4095

def isTooLong (name : LooseText) : Bool :=
  name.bytes?.any (longestName < ·.length)

/-- Why the text of a path cannot even be looked up, if it cannot. -/
def pathFault? (text : LooseText) : Option FileError :=
  match text.bytes? with
  | none => some .unencodable
  | some bytes =>
    if bytes.contains 0 then some .nullCharacter
    else if longestPath < bytes.length then some .tooLong
    else none

structure FileSystem where
  entries : Registry Location Entry
  workingDirectory : Location

namespace FileSystem

/-- What is at a location; the root is always a directory. -/
def entry? (fs : FileSystem) (location : Location) : Option Entry :=
  if location.isEmpty then some .directory else fs.entries.get? location

/-- Follows names from a location on. Every location passed through must be a directory. -/
def follow (fs : FileSystem) (location : Location) : List LooseText → Except FileError Location
  | [] => .ok location
  | name :: names =>
    match fs.entry? location with
    | none => .error .notFound
    | some (.file _) => .error .notDirectory
    | some .directory =>
      if name = (".." : LooseText) then fs.follow location.dropLast names
      else if name = ("." : LooseText) ∨ name = [] then fs.follow location names
      else if isTooLong name then .error .tooLong
      else fs.follow (location ++ [name.asFound]) names

def start (fs : FileSystem) (path : Path) : Location :=
  if path.isRelative then fs.workingDirectory else []

def locate (fs : FileSystem) (path : Path) : Except FileError Location :=
  match pathFault? path.text with
  | some fault => .error fault
  | none => fs.follow (fs.start path) path.components

/-- What a path leads to. -/
def lookup (fs : FileSystem) (path : Path) : Except FileError Entry := do
  match fs.entry? (← fs.locate path) with
  | some entry => return entry
  | none => .error .notFound

/-- A path that is too long is not even looked up. -/
def isBeyondReach (fs : FileSystem) (path : Path) : Bool :=
  match fs.locate path with
  | .error error => error == .tooLong
  | .ok _ => false

def isFile (fs : FileSystem) (path : Path) : Bool :=
  match fs.lookup path with
  | .ok (.file _) => true
  | _ => false

def isDirectory (fs : FileSystem) (path : Path) : Bool :=
  match fs.lookup path with
  | .ok .directory => true
  | _ => false

/-- What a written path leads to. Unlike a `Path`, the text is followed name by
name as it is written, so nothing may follow the name of a file, not even a slash. -/
def lookupText (fs : FileSystem) (text : LooseText) : Except FileError Entry :=
  match pathFault? text with
  | some fault => .error fault
  | none =>
    if text.isEmpty then .error .notFound
    else do
      let start := fs.start (.ofText text)
      match fs.entry? (← fs.follow start (Text.splitAt (.char '/') text)) with
      | some entry => return entry
      | none => .error .notFound

def read (fs : FileSystem) (path : Path) : Except FileError ByteArray := do
  match ← fs.lookup path with
  | .directory => .error .isDirectory
  | .file content => return content

def put (fs : FileSystem) (location : Location) (entry : Entry) : FileSystem :=
  { fs with entries := fs.entries.insert location entry }

/-- Makes each directory on the way that is not there yet. Those made before one that cannot be
made stay. -/
def makeDirectories (fs : FileSystem) (location : Location) :
    List LooseText → FileSystem × Option FileError
  | [] => (fs, none)
  | name :: names =>
    if name = (".." : LooseText) then fs.makeDirectories location.dropLast names
    else if isTooLong name then (fs, some .tooLong)
    else
      let next := location ++ [name.asFound]
      match fs.entry? next with
      | none => (fs.put next .directory).makeDirectories next names
      | some .directory => fs.makeDirectories next names
      | some (.file _) => (fs, some (if names.isEmpty then .alreadyExists else .notDirectory))

def makeDirectory (fs : FileSystem) (path : Path) : FileSystem × Option FileError :=
  match pathFault? path.text with
  | some fault => (fs, some fault)
  | none => fs.makeDirectories (fs.start path) path.components

/-- Writes a file, in place of one that may be there. Its directory must exist. -/
def write (fs : FileSystem) (path : Path) (content : ByteArray) : Except FileError FileSystem := do
  let location ← fs.locate path
  match fs.entry? location with
  | some .directory => .error .isDirectory
  | _ => return fs.put location (.file content)

/-- The names of the entries of a directory, with the entries. -/
def children (fs : FileSystem) (location : Location) : List (LooseText × Entry) :=
  fs.entries.entries.filterMap fun (l, entry) ↦
    match l.getLast? with
    | some name => if l.dropLast = location then some (name, entry) else none
    | none => none

/-- The directories below a location, by the names that lead to them from there. -/
def directoriesBelow (fs : FileSystem) (location : Location) : List Location :=
  fs.entries.entries.filterMap fun (l, entry) ↦
    match entry with
    | .file _ => none
    | .directory =>
      if location.isPrefixOf l ∧ l ≠ location then some (l.drop location.length) else none

/-- The entries that are new or not what they were. -/
def changes (before after : FileSystem) : List (Location × Entry) :=
  after.entries.entries.filter fun (location, entry) ↦
    decide (before.entries.get? location ≠ some entry)

/-- The files below the working directory that are new or have another content, by path. -/
def changedFiles (before after : FileSystem) : List (LooseText × ByteArray) :=
  let home := after.workingDirectory
  let files := (before.changes after).filterMap fun (location, entry) ↦
    match entry with
    | .directory => none
    | .file content =>
      if home.isPrefixOf location then
        some ([.char '/'].intercalate (location.drop home.length), content)
      else none
  files.mergeSort fun a b ↦ a.1.le b.1

end FileSystem

end EndpointStubs
