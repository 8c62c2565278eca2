import EndpointStubs.Files.System
import EndpointStubs.Model.Template
import EndpointStubs.Text.Similarity

/-!
# Command lines

The command line names a command, its options and the sources. Options and
sources may be mixed; after a double hyphen everything is a source. Of an option
that is given twice the last value counts. The values of options are checked in
the order in which the options are first given, and the sources last. In place of a
command or a long option that is not known, those with a similar name are offered.
-/

namespace EndpointStubs

inductive Command where
  | generate
  | model
  | check
  deriving DecidableEq, Repr

namespace Command

def name : Command → String
  | generate => "generate"
  | model => "model"
  | check => "check"

def all : List Command :=
  [generate, model, check]

def ofName? (name : String) : Option Command :=
  all.find? (·.name = name)

end Command

inductive Parameter where
  | output
  | config
  | order
  | verbose
  | sources
  deriving DecidableEq, Repr

namespace Parameter

/-- How messages name the parameter. -/
def hint : Parameter → String
  | output => "'-o' / '--output'"
  | config => "'-c' / '--config'"
  | order => "'--order'"
  | verbose => "'-v' / '--verbose'"
  | sources => "'SOURCES...'"

def takesValue : Parameter → Bool
  | verbose => false
  | _ => true

end Parameter

/-- What is wrong with a command line. -/
inductive UsageError where
  | missingCommand
  /-- A command that is not known, and those with a similar name. -/
  | noSuchCommand (name : String) (similar : List String)
  /-- An option that is not known, and those with a similar name. -/
  | noSuchOption (name : String) (similar : List String)
  | valueMissing (option : String)
  | valueUnwanted (option : String)
  | sourcesMissing
  | badValue (parameter : Parameter) (reason : String)
  /-- A value that cannot be looked up as a path. -/
  | noPath (error : FileError)
  deriving DecidableEq, Repr

/-- What is offered in place of an unknown name. -/
def offer (similar : List String) : String :=
  match similar with
  | [] => ""
  | [name] => " Did you mean " ++ Text.quoted name ++ "?"
  | names =>
    " (Did you mean one of: " ++
      ", ".intercalate ((names.mergeSort fun a b ↦ decide (a ≤ b)).map Text.quoted) ++ "?)"

def UsageError.message : UsageError → String
  | missingCommand => "Missing command."
  | noSuchCommand name similar =>
    "No such command " ++ Text.quoted name ++ "." ++ offer similar
  | noSuchOption name similar =>
    "No such option " ++ Text.quoted name ++ "." ++ offer similar
  | valueMissing option => "Option " ++ Text.quoted option ++ " requires an argument."
  | valueUnwanted option => "Option " ++ Text.quoted option ++ " does not take a value."
  | sourcesMissing => "Missing argument " ++ Parameter.sources.hint ++ "."
  | badValue parameter reason => "Invalid value for " ++ parameter.hint ++ ": " ++ reason
  | noPath error => error.message

namespace Command

/-- The options of a command by their long names. -/
def longOptions : Command → List (String × Parameter)
  | generate | model =>
    [("--output", .output), ("--config", .config), ("--order", .order), ("--verbose", .verbose)]
  | check => [("--config", .config), ("--verbose", .verbose)]

/-- The names of the long options; each command has one more, which explains it. -/
def longNames (command : Command) : List String :=
  command.longOptions.map (·.1) ++ ["--help"]

/-- The options of a command by their letters. -/
def shortOptions : Command → List (Char × Parameter)
  | generate | model => [('o', .output), ('c', .config), ('v', .verbose)]
  | check => [('c', .config), ('v', .verbose)]

end Command

/-- An option as given, with its value; a flag has an empty one. -/
abbrev Given := Parameter × String

/-- An option whose value is the next argument, and how it was written. -/
abbrev Waiting := Parameter × String

/-- The part of an option before an equals sign, and the value after it. -/
def splitAtEquals (argument : List Char) : String × Option String :=
  match argument.dropWhile (· != '=') with
  | _ :: value => (.ofList (argument.takeWhile (· != '=')), some (.ofList value))
  | [] => (.ofList argument, none)

def readLong (command : Command) (argument : List Char) :
    Except UsageError (List Given × Option Waiting) :=
  let (name, value) := splitAtEquals argument
  match command.longOptions.lookup name with
  | none => .error (.noSuchOption name (Text.closest name command.longNames))
  | some parameter =>
    match parameter.takesValue, value with
    | true, some value => .ok ([(parameter, value)], none)
    | true, none => .ok ([], some (parameter, name))
    | false, none => .ok ([(parameter, "")], none)
    | false, some _ => .error (.valueUnwanted name)

/-- A cluster of option letters. The first one that takes a value takes the rest of the cluster. -/
def readLetters (command : Command) : List Char → Except UsageError (List Given × Option Waiting)
  | [] => .ok ([], none)
  | letter :: rest =>
    let name := String.ofList ['-', letter]
    match command.shortOptions.lookup letter with
    | none => .error (.noSuchOption name [])
    | some parameter =>
      if parameter.takesValue then
        if rest.isEmpty then .ok ([], some (parameter, name))
        else .ok ([(parameter, .ofList rest)], none)
      else do
        let (given, waiting) ← readLetters command rest
        return ((parameter, "") :: given, waiting)

def readOption (command : Command) (argument : List Char) :
    Except UsageError (List Given × Option Waiting) :=
  match argument with
  | '-' :: '-' :: _ => readLong command argument
  | _ :: letters => readLetters command letters
  | [] => .ok ([], none)

/-- A single hyphen is not an option. -/
def isOption (argument : String) : Bool :=
  match argument.toList with
  | '-' :: _ :: _ => true
  | _ => false

/-- The options as given and the sources. -/
def readArguments (command : Command) :
    List String → Except UsageError (List Given × List String)
  | [] => .ok ([], [])
  | argument :: rest =>
    if argument = "--" then .ok ([], rest)
    else if isOption argument then
      match readOption command argument.toList with
      | .error e => .error e
      | .ok (given, none) => do
        let (more, sources) ← readArguments command rest
        return (given ++ more, sources)
      | .ok (given, some (parameter, name)) =>
        match rest with
        | [] => .error (.valueMissing name)
        | value :: rest => do
          let (more, sources) ← readArguments command rest
          return (given ++ (parameter, value) :: more, sources)
    else do
      let (given, sources) ← readArguments command rest
      return (given, argument :: sources)

/-- The command and the arguments after its name. There are no options before it. -/
def readCommand : List String → Except UsageError (Command × List String)
  | [] => .error .missingCommand
  | name :: rest =>
    if name = "--" then
      match rest with
      | [] => .error .missingCommand
      | name :: rest => command name rest
    else command name rest
where
  command (name : String) (rest : List String) : Except UsageError (Command × List String) :=
    if isOption name && name != "--" then .error (unknownOption name.toList)
    else
      match Command.ofName? name with
      | some command => .ok (command, rest)
      | none => .error (.noSuchCommand name (Text.closest name (Command.all.map Command.name)))
  /-- In place of a command only the option that explains the program is known. -/
  unknownOption (argument : List Char) : UsageError :=
    match argument with
    | '-' :: '-' :: _ =>
      let name := (splitAtEquals argument).1
      .noSuchOption name (Text.closest name ["--help"])
    | _ => .noSuchOption (.ofList (argument.take 2)) []

/-- What a command line asks for. -/
structure Invocation where
  command : Command
  sources : List Path
  output : Option Path
  config : Option Path
  order : Option VariableOrder
  verbose : Bool

def checkPath (parameter : Parameter) (noun : String) (needed files directories : Bool)
    (fs : FileSystem) (text : String) : Except UsageError Unit :=
  let refuse (fault : String) : UsageError :=
    .badValue parameter (noun ++ " " ++ Text.quoted text ++ fault)
  match fs.lookupText text with
  | .error .nullCharacter => .error (.noPath .nullCharacter)
  | .error _ => if needed then .error (refuse " does not exist.") else .ok ()
  | .ok (.file _) => if files then .ok () else .error (refuse " is a file.")
  | .ok .directory => if directories then .ok () else .error (refuse " is a directory.")

def checkOption (command : Command) (fs : FileSystem) : Given → Except UsageError Unit
  | (.output, text) =>
    if command = .generate then checkPath .output "Directory" false false true fs text
    else checkPath .output "File" false true false fs text
  | (.config, text) => checkPath .config "File" true true false fs text
  | (.order, text) =>
    if (VariableOrder.ofLabel? text).isSome then .ok ()
    else .error (.badValue .order
      (Text.quoted text ++ " is not one of 'textual', 'declaration'."))
  | (.verbose, _) | (.sources, _) => .ok ()

/-- Each option once, where it is first given, with the value it is last given. -/
def settled (given : List Given) : Registry Parameter String :=
  .ofList given

def Invocation.parse (fs : FileSystem) (arguments : List String) :
    Except UsageError Invocation := do
  let (command, arguments) ← readCommand arguments
  let (given, sources) ← readArguments command arguments
  let options := settled given
  options.entries.forM (checkOption command fs)
  if sources.isEmpty then .error .sourcesMissing
  else
    sources.forM (checkPath .sources "Path" true true true fs)
    return {
      command
      sources := sources.map .ofString
      output := (options.get? .output).map .ofString
      config := (options.get? .config).map .ofString
      order := (options.get? .order).bind VariableOrder.ofLabel?
      verbose := options.contains .verbose }

end EndpointStubs
