import EndpointStubs.Model.Template

/-!
# Checking a normalized model

An endpoint can be stubbed faithfully if it is mapped, its template has no
placeholder left, and each of its path variables stands in its template. The
check names every problem of every endpoint.
-/

namespace EndpointStubs

inductive Problem where
  | noMapping
  /-- The groups in braces that no path variable fills. -/
  | unresolved (groups : List (List Char))
  | unplaced (names : List String)
  | noTemplate
  deriving DecidableEq, Repr

def Problem.message : Problem → String
  | noMapping => "no GET or POST mapping"
  | unresolved groups =>
    "unresolved placeholders " ++
      ", ".intercalate (groups.map fun group ↦ .ofList ('{' :: group ++ ['}']))
  | unplaced names => "path variables not in template: " ++ ", ".intercalate names
  | noTemplate => "path variables declared but no path template"

/-- A path variable that was reported without a name is missing from the
template, and so cannot be listed among the missing ones. -/
inductive CheckError where
  | unnamedVariable
  deriving DecidableEq, Repr

def sortTexts (texts : List String) : List String :=
  texts.mergeSort fun a b ↦ decide (a ≤ b)

namespace Resource

/-- The path variables that the normalized template does not use. -/
def unplacedVariables (resource : Resource) : List (Option String) :=
  resource.pathVariables.keys.filter (!resource.formatArguments.contains ·)

def templateProblems (resource : Resource) (template : String) : Except CheckError (List Problem) :=
  let groups := bracedGroups true template.toList
  let unplaced := resource.unplacedVariables
  if unplaced.contains none then .error .unnamedVariable
  else
    .ok ((if groups.isEmpty then [] else [.unresolved groups]) ++
      if unplaced.isEmpty then [] else [.unplaced (sortTexts (unplaced.filterMap id))])

def problems (resource : Resource) : Except CheckError (List Problem) := do
  let mapping := if resource.httpMethod.isNone then [Problem.noMapping] else []
  match resource.template with
  | some template => return mapping ++ (← resource.templateProblems template)
  | none =>
    return mapping ++ if resource.pathVariables.isEmpty then [] else [.noTemplate]

end Resource

/-- The problems of each endpoint that has some. Of two endpoints with one key
the later one counts. -/
def Model.problems (model : Model) : Except CheckError (Registry String (List Problem)) := do
  let checked ← model.endpoints.mapM fun (key, resource) ↦ return (key, ← resource.problems)
  return .ofList (checked.filter fun (_, problems) ↦ !problems.isEmpty)

def problemText (problems : List Problem) : String :=
  "; ".intercalate (problems.map Problem.message)

end EndpointStubs
