import EndpointStubs.Diagnostic
import EndpointStubs.Fact.Scan
import EndpointStubs.Files.Wildcard
import EndpointStubs.Java.ControllerMention
import EndpointStubs.Settings.Load

/-!
# Finding and scanning source files

Source files are found by a pattern below a directory. Those that mention a
controller are kept, and so are those that cannot be read: scanning reports them
and goes on.
-/

namespace EndpointStubs

/-- One name of a pattern. -/
inductive PatternPart where
  /-- Any number of directories. -/
  | anyDepth
  | parent
  | wild (pattern : List Wildcard)
  | name (name : LooseText)
  deriving DecidableEq, Repr

/-- A pattern; `directoriesOnly` if a slash ends it. -/
structure PathPattern where
  parts : List PatternPart
  directoriesOnly : Bool
  deriving DecidableEq, Repr

inductive PatternError where
  | empty
  | absolute
  /-- Two stars stand beside something else in a name. -/
  | partialDepth
  /-- The pattern has no names. -/
  | noNames
  /-- The pattern has no names and a slash at its end. -/
  | noNamesBeforeSlash
  deriving DecidableEq, Repr

def PatternError.message : PatternError → String
  | empty => "Unacceptable pattern: ''"
  | absolute => "Non-relative patterns are unsupported"
  | partialDepth => "Invalid pattern: '**' can only be an entire path component"
  | noNames | noNamesBeforeSlash => "Pattern without names"

def hasTwoStars : LooseText → Bool
  | .char '*' :: .char '*' :: _ => true
  | _ :: rest => hasTwoStars rest
  | [] => false

def PatternPart.parse (name : LooseText) : Except PatternError PatternPart :=
  if name = ("**" : LooseText) then .ok .anyDepth
  else if name = (".." : LooseText) then .ok .parent
  else if hasTwoStars name then .error .partialDepth
  else if Wildcard.isWild name then .ok (.wild (Wildcard.parse name))
  else .ok (.name name)

def PathPattern.parse (text : LooseText) : Except PatternError PathPattern := do
  if text.isEmpty then .error .empty
  else
    let path := Path.ofText text
    let slash := text.getLast? = some (.char '/')
    if !path.isRelative then .error .absolute
    else if path.components.isEmpty then .error (if slash then .noNamesBeforeSlash else .noNames)
    else return ⟨← path.components.mapM PatternPart.parse, slash⟩

/-! ## Finding -/

/-- A place reached by a pattern: the path that leads there, and where it is. -/
abbrev Reached := Path × Location

/-- The place, unless its path is too long to be looked up. -/
def Reached.check (place : Reached) : Except FileError Reached :=
  if pathFault? place.1.text = some .tooLong then .error .tooLong else .ok place

namespace FileSystem

def isDirectoryAt (fs : FileSystem) (location : Location) : Bool :=
  match fs.entry? location with
  | some .directory => true
  | _ => false

/-- The places one part of a pattern leads to. Only directories lead further. Every directory
whose entries are listed is looked up, and so is every place that the pattern names. -/
def reach (fs : FileSystem) (part : PatternPart) (directoriesOnly : Bool) (place : Reached) :
    Except FileError (List Reached) := do
  let (path, location) := place
  let isAdmitted (entry : Entry) : Bool :=
    match entry with
    | .directory => true
    | .file _ => !directoriesOnly
  match part with
  | .anyDepth =>
    if fs.isDirectoryAt location then
      let below := (fs.directoriesBelow location).map fun names ↦
        (⟨path.root, path.components ++ names⟩, location ++ names)
      (place :: below).mapM Reached.check
    else return []
  | .parent =>
    let parent ← Reached.check (path.child "..", location.dropLast)
    return [parent]
  | .wild pattern =>
    let _ ← place.check
    return (fs.children location).filterMap fun (name, entry) ↦
      if isAdmitted entry && Wildcard.covers pattern name then
        some (path.child name, location ++ [name])
      else none
  | .name name =>
    match pathFault? (path.child name).text with
    | some .tooLong => .error .tooLong
    | some _ => return []
    | none =>
      if isTooLong name then .error .tooLong
      else
        match fs.entry? (location ++ [name.asFound]) with
        | some entry =>
          return if isAdmitted entry then [(path.child name, location ++ [name.asFound])] else []
        | none => return []

/-- The places that all parts of a pattern lead to, each once. -/
def reachAll (fs : FileSystem) (directoriesOnly : Bool) (places : List Reached) :
    List PatternPart → Except FileError (List Reached)
  | [] => places.mapM Reached.check
  | part :: parts => do
    let only := directoriesOnly || !parts.isEmpty
    let reached ← places.mapM (fs.reach part only)
    fs.reachAll directoriesOnly reached.flatten.eraseDups parts

/-- The files below a directory that match a pattern, each once, in the order of their paths. -/
def matchingFiles (fs : FileSystem) (root : Path) (pattern : PathPattern) :
    Except FileError (List Path) :=
  match fs.locate root with
  | .error _ => .ok []
  | .ok location =>
    if !fs.isDirectoryAt location then .ok []
    else do
      let reached ← fs.reachAll pattern.directoriesOnly [(root, location)] pattern.parts
      let files := reached.filter fun (_, place) ↦
        match fs.entry? place with
        | some (.file _) => true
        | _ => false
      return (files.map Prod.fst).mergeSort Path.le

end FileSystem

/-- Why the search for sources, or for facts in them, ends early. -/
inductive SearchError where
  | pattern (error : PatternError)
  /-- A place to look at cannot be. -/
  | place (error : FileError)
  | unreadable (error : ReadError)
  | scan (error : ScanError)
  deriving DecidableEq, Repr

/-- The fault lies with the file: it is passed over, and the search goes on. -/
def ReadError.isOfFile : ReadError → Bool
  | file error => error != .nullCharacter && error != .unencodable
  | undecodable => true
  | refused | unknownEncoding _ | nullInEncoding | surrogateInEncoding => false

/-- The file is worth scanning: it mentions a controller or cannot be read. -/
def isCandidate (runtime : Runtime) (fs : FileSystem) (encoding : LooseText) (path : Path) :
    Except SearchError Bool :=
  match fs.readText runtime path encoding with
  | .ok text => .ok (Java.mentionsController text)
  | .error error => if error.isOfFile then .ok true else .error (.unreadable error)

/-- The source files at or below a path. A file given directly need not match the pattern. -/
def findSources (runtime : Runtime) (fs : FileSystem) (root : Path)
    (pattern encoding : LooseText) : Except SearchError (List Path) := do
  let candidates ←
    if fs.isBeyondReach root then throw (.place .tooLong)
    else if fs.isFile root then pure [root]
    else do
      let pattern ← (PathPattern.parse pattern).mapError .pattern
      (fs.matchingFiles root pattern).mapError .place
  candidates.filterM (isCandidate runtime fs encoding)

/-- The facts of the files and what is to be reported about them. -/
structure Scanned where
  facts : List Fact := []
  diagnostics : List Diagnostic := []

def scanFile (runtime : Runtime) (fs : FileSystem) (encoding : LooseText) (path : Path) :
    Except SearchError Scanned :=
  match fs.readText runtime path encoding with
  | .ok text =>
    match scanWithin runtime.nesting (.ofList text) with
    | .ok facts => .ok ⟨facts, [.scanned path.text facts.length]⟩
    | .error error => .error (.scan error)
  | .error error =>
    if error.isOfFile then .ok ⟨[], [.unreadable path.text]⟩ else .error (.unreadable error)

/-- The files in the order given; one that cannot be read is reported and has no facts. -/
def scanFiles (runtime : Runtime) (fs : FileSystem) (encoding : LooseText) :
    List Path → Except SearchError Scanned
  | [] => .ok {}
  | path :: paths => do
    let first ← scanFile runtime fs encoding path
    let rest ← scanFiles runtime fs encoding paths
    return ⟨first.facts ++ rest.facts, first.diagnostics ++ rest.diagnostics⟩

end EndpointStubs
