import EndpointStubs.Model.Template
import EndpointStubs.Text.Loose

/-!
# Settings

The choices a user has about where sources are found and how stubs are written.
Nothing in them keeps surrogates out, though no generated text can be written
with one.
-/

namespace EndpointStubs

structure Settings where
  /-- The directory that generated files are written under, as a normalized path. -/
  outputDirectory : LooseText := "build/generated-stubs"
  stubSuffix : LooseText := "Stub"
  baseSuffix : LooseText := "StubBase"
  sourcePattern : LooseText := "**/*.java"
  encoding : LooseText := "utf-8"
  variableOrder : VariableOrder := .textual
  deriving DecidableEq, Repr

/-- What the names of the generated classes end in. -/
structure Suffixes where
  stub : String := "Stub"
  base : String := "StubBase"
  deriving DecidableEq, Repr

/-- The suffixes as they are displayed, which is as they are unless they hold surrogates. -/
def Settings.suffixes (settings : Settings) : Suffixes :=
  ⟨settings.stubSuffix.shown, settings.baseSuffix.shown⟩

/-- A suffix holds a surrogate, so that no stub can be written: its text names both classes. -/
def Settings.hasLooseSuffix (settings : Settings) : Bool :=
  settings.stubSuffix.text?.isNone || settings.baseSuffix.text?.isNone

end EndpointStubs
