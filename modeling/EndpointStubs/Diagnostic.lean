import EndpointStubs.Model.Json
import EndpointStubs.Text.Quoted

/-!
# Diagnostics

What the program reports about its work besides its results. Diagnostics are
values; their level, their source and their wording are decided here.
-/

namespace EndpointStubs

inductive Level where
  | debug
  | info
  | warning
  deriving DecidableEq, Repr

def Level.label : Level → String
  | debug => "DEBUG"
  | info => "INFO"
  | warning => "WARNING"

inductive Diagnostic where
  /-- A source file was read and scanned. -/
  | scanned (path : LooseText) (facts : Nat)
  /-- A source file could not be read. -/
  | unreadable (path : LooseText)
  | roundStarted (facts : Nat)
  | folding (annotationName element : String)
  | unknownKind (annotationName element : String)
  /-- A route or parameter fact does not say which method it belongs to. -/
  | noEnclosingMethod (annotationName element : String)
  /-- A field of an endpoint got another value; both values as they are shown. -/
  | fieldChanged (key field before after : String)
  | argumentRetyped (key : String) (name before after : Option String)
  | bodyReplaced (key : String) (before after : Option String)
  | normalized (model : Model)
  /-- An endpoint is left out of the stub. -/
  | notStubbed (key : String)
  | written (path : LooseText)
  deriving DecidableEq, Repr

namespace Diagnostic

def level : Diagnostic → Level
  | scanned .. | roundStarted .. | folding .. | normalized .. => .debug
  | unknownKind .. | written .. => .info
  | unreadable .. | noEnclosingMethod .. | fieldChanged .. | argumentRetyped .. | bodyReplaced ..
  | notStubbed .. => .warning

def message : Diagnostic → LooseText
  | scanned path facts => path ++ ": " ++ toString facts ++ " facts"
  | unreadable path => "Skipping " ++ path
  | roundStarted facts => "Processing " ++ toString facts ++ " facts"
  | folding annotationName element => "Processing " ++ annotationName ++ " on " ++ element
  | unknownKind annotationName element =>
    "Unknown annotation " ++ annotationName ++ " on " ++ element
  | noEnclosingMethod annotationName element =>
    "Ignoring " ++ annotationName ++ " on " ++ element ++ ": no enclosing method"
  | fieldChanged key field before after =>
    key ++ ": " ++ field ++ " changed from " ++ before ++ " to " ++ after
  | argumentRetyped key name before after =>
    key ++ ": argument " ++ nameText name ++ " retyped from " ++ nameText before ++ " to " ++
      nameText after
  | bodyReplaced key before after =>
    key ++ ": request body " ++ nameText before ++ " replaced by " ++ nameText after
  | normalized model => "Model after normalization:\n" ++ model.text
  | notStubbed key => "Skipping " ++ key ++ ": no GET or POST mapping"
  | written path => "Wrote " ++ path

/-- The part of the program that reports it, as log lines name it. -/
def source : Diagnostic → String
  | scanned .. | unreadable .. => "controller_stub_gen.parser.java"
  | notStubbed .. | written .. => "controller_stub_gen.generator.stub"
  | _ => "controller_stub_gen.processor"

def isWarning (d : Diagnostic) : Bool :=
  d.level = .warning

end Diagnostic

end EndpointStubs
