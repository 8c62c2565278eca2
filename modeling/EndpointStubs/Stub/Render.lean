import EndpointStubs.Diagnostic
import EndpointStubs.Java.StringLiteral
import EndpointStubs.Settings.Basic
import EndpointStubs.Stub.Numbering
import EndpointStubs.Stub.ResponseType

/-!
# Generated classes

Each controller has two classes: the stub, with a stubbing method for each
endpoint, and its base, with the URL templates and the shared helpers. Their
text depends on the model and the suffixes alone.
-/

namespace EndpointStubs

/-- Why a stub cannot be written for a model that was not built from sources. -/
inductive StubError where
  /-- A format argument is no path variable of its endpoint. -/
  | unregisteredVariable (name : Option String)
  /-- A query argument without a name cannot be sorted among others. -/
  | unsortableArguments
  /-- A format argument has no name to write. -/
  | unnamedFormatArgument
  /-- A query argument has neither a name nor a given name to send it under. -/
  | unnamedQueryArgument
  deriving DecidableEq, Repr

/-- Generated files by relative path. -/
abbrev Files := Registry String String

def parameterText (type name : Option String) : String :=
  "final " ++ nameText type ++ " " ++ nameText name

/-- The parameters for the path variables, each once, where it is first used. -/
def pathParameters (registry : Registry (Option String) Argument) (seen : List (Option String)) :
    List (Option String) → Except StubError (List String)
  | [] => .ok []
  | name :: names =>
    match registry.get? name with
    | none => .error (.unregisteredVariable name)
    | some entry =>
      if seen.contains name then pathParameters registry seen names
      else do
        let rest ← pathParameters registry (name :: seen) names
        return parameterText entry.type name :: rest

/-- The query arguments by name. -/
def sortedArguments (arguments : Registry (Option String) Argument) :
    Except StubError (List (Option String × Argument)) :=
  if 2 ≤ arguments.entries.length ∧ arguments.contains none then .error .unsortableArguments
  else .ok (arguments.entries.mergeSort fun a b ↦ decide (nameText a.1 ≤ nameText b.1))

/-- The path expression: the constant itself, or a format call if the template has arguments. -/
def urlText (constant : String) (formatArguments : List (Option String)) :
    Except StubError String :=
  if formatArguments.isEmpty then .ok constant
  else if formatArguments.contains none then .error .unnamedFormatArgument
  else
    .ok ("String.format(" ++ constant ++ ", " ++ ", ".intercalate (formatArguments.map nameText) ++
      ")")

def queryLine (name : Option String) (argument : Argument) : Except StubError String :=
  match argument.givenName.filter (!·.isEmpty) <|> name with
  | none => .error .unnamedQueryArgument
  | some queryName =>
    .ok ("                .withQueryParam(\"" ++ Java.escapeString queryName ++
      "\", equalTo(String.valueOf(" ++ nameText name ++ ")))")

def HttpMethod.verb : HttpMethod → String
  | get => "get"
  | post => "post"

def StubEndpoint.methodLines (endpoint : StubEndpoint) : Except StubError (List String) := do
  let resource := endpoint.resource
  let pathParameters ← pathParameters resource.pathVariables [] resource.formatArguments
  let arguments ← sortedArguments resource.arguments
  let bodyParameter := resource.requestBody.toList.map fun body ↦ parameterText body.type body.name
  let responseType := responseArgumentType resource.responseType
  let responseParameter := responseType.toList.map fun type ↦ "final " ++ type ++ " response"
  let parameters := pathParameters ++ arguments.map (fun (name, a) ↦ parameterText a.type name) ++
    bodyParameter ++ responseParameter
  let url ← urlText endpoint.constant resource.formatArguments
  let queryLines ← arguments.mapM fun (name, a) ↦ queryLine name a
  let bodyLine := resource.requestBody.toList.map fun body ↦
    "                .withRequestBody(equalToJson(buildBody(" ++ nameText body.name ++ ")))"
  let answerLine :=
    if responseType.isSome then "                .willReturn(aJsonResponse(response)));"
    else "                .willReturn(aResponse().withStatus(200)));"
  return ["    public void " ++ endpoint.name ++ "(" ++ ", ".intercalate parameters ++ ") \x7b",
      "        stubFor(" ++ endpoint.httpMethod.verb ++ "(urlPathEqualTo(" ++ url ++ "))"] ++
    queryLines ++ bodyLine ++ [answerLine, "    \x7d"]

def packageLines (packageName : String) : List String :=
  if packageName.isEmpty then [] else ["package " ++ packageName ++ ";", ""]

/-- Imports that only the annotations of a controller need. -/
def skippedImportStems : List String :=
  ["org.springframework.web.bind.annotation.", "org.springframework.stereotype."]

/-- The imports of the controller that its stub needs too. -/
def stubImports (imports : List String) : List String :=
  imports.filter fun name ↦
    !(skippedImportStems.any fun stem ↦ (Text.after? stem.toList name.toList).isSome) &&
      name != "java.util.*"

def objectMapperImport : String :=
  "com.fasterxml.jackson.databind.ObjectMapper"

def importLines (imports : List String) : List String :=
  (sortTexts (objectMapperImport :: stubImports imports).eraseDups).map fun name ↦
    "import " ++ name ++ ";"

/-- The lines of a text file, each ended by a newline. -/
def fileText (lines : List String) : String :=
  "\n".intercalate lines ++ "\n"

/-- The text of the stub class. -/
def Controller.stubText (suffixes : Suffixes) (packageName simpleName : String)
    (controller : Controller) : Except StubError String := do
  let stubName := simpleName ++ suffixes.stub
  let baseName := simpleName ++ suffixes.base
  let methods ← controller.stubEndpoints.mapM StubEndpoint.methodLines
  return fileText <|
    packageLines packageName ++ importLines controller.imports ++
    ["",
      "import java.util.*;",
      "",
      "import static com.github.tomakehurst.wiremock.client.WireMock.*;",
      "",
      "public class " ++ stubName ++ " extends " ++ baseName ++ " \x7b",
      "",
      "    public " ++ stubName ++ "(ObjectMapper objectMapper) \x7b",
      "        super(objectMapper);",
      "    \x7d"] ++
    methods.flatMap ("" :: ·) ++
    ["\x7d"]

def StubEndpoint.constantLine (endpoint : StubEndpoint) : String :=
  "    protected static final String " ++ endpoint.constant ++ " = \"" ++
    Java.escapeString (endpoint.resource.template.getD "") ++ "\";"

/-- The text of the stub base class. -/
def Controller.baseText (suffixes : Suffixes) (packageName simpleName : String)
    (controller : Controller) : String :=
  let baseName := simpleName ++ suffixes.base
  let constants := controller.stubEndpoints.map StubEndpoint.constantLine
  fileText <|
    packageLines packageName ++
    ["import com.fasterxml.jackson.core.JsonProcessingException;",
      "import com.fasterxml.jackson.databind.ObjectMapper;",
      "import com.github.tomakehurst.wiremock.client.ResponseDefinitionBuilder;",
      "",
      "import static com.github.tomakehurst.wiremock.client.WireMock.aResponse;",
      "",
      "public class " ++ baseName ++ " \x7b",
      ""] ++
    (if constants.isEmpty then [] else constants ++ [""]) ++
    ["    protected final ObjectMapper objectMapper;",
      "",
      "    public " ++ baseName ++ "(ObjectMapper objectMapper) \x7b",
      "        this.objectMapper = objectMapper;",
      "    \x7d",
      "",
      "    protected String buildBody(Object object) \x7b",
      "        try \x7b",
      "            return objectMapper.writeValueAsString(object);",
      "        \x7d catch (JsonProcessingException e) \x7b",
      "            throw new IllegalArgumentException(e);",
      "        \x7d",
      "    \x7d",
      "",
      "    protected ResponseDefinitionBuilder aJsonResponse(Object response) \x7b",
      "        return aResponse()",
      "                .withStatus(200)",
      "                .withHeader(\"Content-Type\", \"application/json\")",
      "                .withBody(buildBody(response));",
      "    \x7d",
      "\x7d"]

namespace Model

/-- The controllers in the order of their names. -/
def sortedControllers (model : Model) : List (String × Controller) :=
  model.controllers.entries.mergeSort fun a b ↦ decide (a.1 ≤ b.1)

def stubFile (suffixes : Suffixes) (key : String) (controller : Controller) :
    Except StubError (String × String) := do
  let (packageName, simpleName) := controllerName key controller.packageName
  let text ← controller.stubText suffixes packageName simpleName
  return (classFile packageName (simpleName ++ suffixes.stub), text)

def baseFile (suffixes : Suffixes) (key : String) (controller : Controller) : String × String :=
  let (packageName, simpleName) := controllerName key controller.packageName
  (classFile packageName (simpleName ++ suffixes.base),
    controller.baseText suffixes packageName simpleName)

/-- The stub classes. Two classes with one path leave only the later one. -/
def stubFiles (suffixes : Suffixes) (model : Model) : Except StubError Files := do
  let files ← model.sortedControllers.mapM fun (key, controller) ↦ stubFile suffixes key controller
  return .ofList files

/-- The base classes. Two classes with one path leave only the later one. -/
def baseFiles (suffixes : Suffixes) (model : Model) : Files :=
  .ofList (model.sortedControllers.map fun (key, controller) ↦ baseFile suffixes key controller)

/-- The endpoints that get no stub method, up to and including those of the first
controller that no stub can be written for. -/
def skipDiagnostics (suffixes : Suffixes) (model : Model) : List Diagnostic :=
  go model.sortedControllers
where
  go : List (String × Controller) → List Diagnostic
    | [] => []
    | (key, controller) :: rest =>
      controller.skippedKeys.map .notStubbed ++
        if (stubFile suffixes key controller).isOk then go rest else []

end Model

end EndpointStubs
