import EndpointStubs.Diagnostic
import EndpointStubs.Fact.Basic
import EndpointStubs.Text.Case

/-!
# Folding facts into the model

Each fact changes only what it is about. What a later fact says replaces what an
earlier one said; where it says something else, the change is reported. A fact
of unknown kind, and a route or parameter fact without a method, change nothing.
-/

namespace EndpointStubs

/-- A route template is the first `path` value, or else the first `value`. -/
def selectTemplate (path value : List String) : Option String :=
  path.head? <|> value.head?

/-- A line without the part from its first opening parenthesis through its last closing one. -/
def dropGroup (line : List Char) : List Char :=
  match line.dropWhile (· != '(') with
  | '(' :: rest =>
    if rest.contains ')' then line.takeWhile (· != '(') ++ (Text.splitTrailing (· != ')') rest).2
    else line
  | _ => line

/-- Parenthesised groups are no part of a type. -/
def cleanType (text : String) : String :=
  .ofList (['\n'].intercalate ((Text.splitAt '\n' text.toList).map dropGroup))

def HttpMethod.shown (method : HttpMethod) : String :=
  "<HttpMethod." ++ method.label ++ ": " ++ Text.quoted method.label ++ ">"

/-- Reports that a field that was set is about to get another value. -/
def fieldChange {α : Type} [DecidableEq α] (key field : String) (shown : α → String)
    (current new : Option α) : List Diagnostic :=
  match current, new with
  | some before, some after =>
    if before = after then [] else [.fieldChanged key field (shown before) (shown after)]
  | _, _ => []

namespace Resource

def withRoute (method : HttpMethod) (fact : Fact) (resource : Resource) : Resource :=
  { resource with
    template := selectTemplate fact.path fact.value <|> resource.template
    httpMethod := some method
    methodName := fact.methodName.map Text.capitalize <|> resource.methodName
    responseType := fact.typeText.map cleanType <|> resource.responseType }

def routeConflicts (key : String) (method : HttpMethod) (fact : Fact) (resource : Resource) :
    List Diagnostic :=
  fieldChange key "sub_resource" Text.quoted resource.template
      (selectTemplate fact.path fact.value) ++
    fieldChange key "http_method" HttpMethod.shown resource.httpMethod (some method) ++
    fieldChange key "method_name" Text.quoted resource.methodName
      (fact.methodName.map Text.capitalize) ++
    fieldChange key "response_type" Text.quoted resource.responseType (fact.typeText.map cleanType)

def withArgument (fact : Fact) (resource : Resource) : Resource :=
  { resource with
    arguments := resource.arguments.insert fact.name ⟨fact.name, fact.typeText, fact.givenName⟩ }

def withPathVariable (fact : Fact) (resource : Resource) : Resource :=
  { resource with
    hasPathVariable := true
    pathVariables :=
      resource.pathVariables.insert fact.name ⟨fact.name, fact.typeText, fact.givenName⟩ }

def withBody (fact : Fact) (resource : Resource) : Resource :=
  { resource with
    hasPathVariable := true
    requestBody := some { name := fact.name, type := fact.typeText } }

/-- Reports that the entry for the fact's parameter had another type. -/
def typeConflicts (key : String) (fact : Fact) (registry : Registry (Option String) Argument) :
    List Diagnostic :=
  match (registry.get? fact.name).bind (·.type) with
  | none => []
  | some before =>
    if fact.typeText = some before then []
    else [.argumentRetyped key fact.name (some before) fact.typeText]

def bodyConflicts (key : String) (fact : Fact) (resource : Resource) : List Diagnostic :=
  match resource.requestBody with
  | none => []
  | some before =>
    if before = { name := fact.name, type := fact.typeText } then []
    else [.bodyReplaced key before.name fact.name]

end Resource

/-- Imports are listed once, in the order in which they were first reported. -/
def Controller.withFact (fact : Fact) (controller : Controller) : Controller :=
  { controller with
    packageName := fact.packageName <|> controller.packageName
    imports := fact.imports.foldl
      (fun imports name ↦ if imports.contains name then imports else imports ++ [name])
      controller.imports }

namespace Model

/-- The model after one more fact, and what the fact contradicts or leaves unused. -/
def foldReporting (model : Model) (fact : Fact) : Model × List Diagnostic :=
  let resource key := (model.resource? fact.controller key).getD {}
  match fact.kind, fact.methodKey with
  | .controller, _ => (model.updateController fact.controller (·.withFact fact), [])
  | .unknown, _ => (model, [.unknownKind fact.annotationName fact.element])
  | _, none => (model, [.noEnclosingMethod fact.annotationName fact.element])
  | .getRoute, some key =>
    (model.updateResource fact.controller key (·.withRoute .get fact),
      (resource key).routeConflicts key .get fact)
  | .postRoute, some key =>
    (model.updateResource fact.controller key (·.withRoute .post fact),
      (resource key).routeConflicts key .post fact)
  | .requestParam, some key =>
    (model.updateResource fact.controller key (·.withArgument fact),
      Resource.typeConflicts key fact (resource key).arguments)
  | .pathVariable, some key =>
    (model.updateResource fact.controller key (·.withPathVariable fact),
      Resource.typeConflicts key fact (resource key).pathVariables)
  | .requestBody, some key =>
    (model.updateResource fact.controller key (·.withBody fact),
      (resource key).bodyConflicts key fact)

def fold (model : Model) (fact : Fact) : Model :=
  (model.foldReporting fact).1

def foldDiagnostics (model : Model) (fact : Fact) : List Diagnostic :=
  .folding fact.annotationName fact.element :: (model.foldReporting fact).2

def foldAll (model : Model) (facts : List Fact) : Model :=
  facts.foldl fold model

/-- The diagnostics of folding the facts one after the other. -/
def foldAllDiagnostics (model : Model) : List Fact → List Diagnostic
  | [] => []
  | fact :: facts => model.foldDiagnostics fact ++ (model.fold fact).foldAllDiagnostics facts

end Model

end EndpointStubs
