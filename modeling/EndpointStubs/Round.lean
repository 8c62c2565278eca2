import EndpointStubs.Model.Fold
import EndpointStubs.Stub.Render

/-!
# Rounds

One round builds a fresh model from all facts at once and normalizes it. If
there was any fact, the stub classes and then the base classes are generated.
-/

namespace EndpointStubs

/-- The model of a round. -/
def roundModel (order : VariableOrder) (facts : List Fact) : Model :=
  ((∅ : Model).foldAll facts).normalize order

/-- The diagnostics of building the model. -/
def roundDiagnostics (order : VariableOrder) (facts : List Fact) : List Diagnostic :=
  .roundStarted facts.length :: (∅ : Model).foldAllDiagnostics facts ++
    [.normalized (roundModel order facts)]

/-- What a round generates. -/
structure Generated where
  stubs : Files
  bases : Files

/-- The files of a round; nothing is generated for a round without facts. -/
def generate (suffixes : Suffixes) (facts : List Fact) (model : Model) :
    Except StubError (Option Generated) :=
  if facts.isEmpty then .ok none
  else do
    let stubs ← model.stubFiles suffixes
    return some ⟨stubs, model.baseFiles suffixes⟩

/-- The diagnostics of generating the files. -/
def generateDiagnostics (suffixes : Suffixes) (facts : List Fact) (model : Model) :
    List Diagnostic :=
  if facts.isEmpty then [] else model.skipDiagnostics suffixes

end EndpointStubs
