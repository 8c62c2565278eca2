import EndpointStubs.Proofs.ClassText

/-!
# Stub methods

A stub method as data, and its text: the signature with a parameter for each path
variable that is used, for each query argument and for the body and the response,
and the call that stubs the request, with the format call for its path, a line for
each query argument and one for the body. If the method of an endpoint can be
written, it is this text for the parts of the endpoint.
-/

namespace EndpointStubs

structure StubParameter where
  type : String
  name : String
  deriving DecidableEq, Repr

def StubParameter.text (parameter : StubParameter) : String :=
  "final " ++ parameter.type ++ " " ++ parameter.name

structure StubMethod where
  name : String
  verb : String
  constant : String
  /-- The parameters for the path variables, the query arguments and the body of the request. -/
  requestParameters : List StubParameter
  responseParameter : Option StubParameter
  /-- The identifiers that are passed to the format call. -/
  formatArguments : List String
  /-- The names of the query arguments, each with the identifier whose value is expected. -/
  queryValues : List (String × String)
  bodyObject : Option String
  responseObject : Option String
  deriving DecidableEq, Repr

namespace StubMethod

def parameters (method : StubMethod) : List StubParameter :=
  method.requestParameters ++ method.responseParameter.toList

def pathText (method : StubMethod) : String :=
  if method.formatArguments.isEmpty then method.constant
  else "String.format(" ++ method.constant ++ ", " ++ ", ".intercalate method.formatArguments ++ ")"

def queryText (queryName value : String) : String :=
  "                .withQueryParam(\"" ++ Java.escapeString queryName ++
    "\", equalTo(String.valueOf(" ++ value ++ ")))"

def bodyText (body : String) : String :=
  "                .withRequestBody(equalToJson(buildBody(" ++ body ++ ")))"

def answerText : Option String → String
  | some response => "                .willReturn(aJsonResponse(" ++ response ++ ")));"
  | none => "                .willReturn(aResponse().withStatus(200)));"

def signature (method : StubMethod) : String :=
  "    public void " ++ method.name ++ "(" ++
    ", ".intercalate (method.parameters.map StubParameter.text) ++ ") \x7b"

def requestLine (method : StubMethod) : String :=
  "        stubFor(" ++ method.verb ++ "(urlPathEqualTo(" ++ method.pathText ++ "))"

def queryLines (method : StubMethod) : List String :=
  method.queryValues.map fun (queryName, value) ↦ queryText queryName value

def bodyLines (method : StubMethod) : List String :=
  method.bodyObject.toList.map bodyText

/-- The lines of the method. -/
def lines (method : StubMethod) : List String :=
  method.signature :: method.requestLine ::
    (method.queryLines ++ method.bodyLines ++ [answerText method.responseObject, "    \x7d"])

end StubMethod

namespace Resource

/-- The names of the path variables that have a parameter, in the order of their first use. -/
def usedVariables (resource : Resource) : List (Option String) :=
  resource.formatArguments.eraseDups

/-- The query arguments in the order of their names. -/
def orderedArguments (resource : Resource) : List (Option String × Argument) :=
  resource.arguments.entries.mergeSort fun a b ↦ decide (nameText a.1 ≤ nameText b.1)

end Resource

/-- The stub method that is written for an endpoint. -/
def StubEndpoint.stubMethod (endpoint : StubEndpoint) : StubMethod :=
  let resource := endpoint.resource
  let response := responseArgumentType resource.responseType
  { name := endpoint.name
    verb := endpoint.httpMethod.verb
    constant := endpoint.constant
    requestParameters :=
      resource.usedVariables.map (fun name ↦
        ⟨nameText ((resource.pathVariables.get? name).bind (·.type)), nameText name⟩) ++
      resource.orderedArguments.map (fun (name, a) ↦ ⟨nameText a.type, nameText name⟩) ++
      resource.requestBody.toList.map fun body ↦ ⟨nameText body.type, nameText body.name⟩
    responseParameter := response.map fun type ↦ ⟨type, "response"⟩
    formatArguments := resource.formatArguments.map nameText
    queryValues := resource.orderedArguments.map fun (name, a) ↦
      ((a.givenName.filter (!·.isEmpty) <|> name).getD "", nameText name)
    bodyObject := resource.requestBody.map fun body ↦ nameText body.name
    responseObject := response.map fun _ ↦ "response" }

/-- The parameter that stands for a path variable. -/
def Resource.variableParameter (resource : Resource) (name : Option String) : String :=
  parameterText ((resource.pathVariables.get? name).bind (·.type)) name

theorem isSome_get?_of_pathParameters_eq_ok {registry : Registry (Option String) Argument}
    {seen names : List (Option String)} {parameters : List String}
    (h : pathParameters registry seen names = .ok parameters) :
    ∀ name ∈ names, (registry.get? name).isSome := by
  induction names generalizing seen parameters with
  | nil => nofun
  | cons name names ih =>
    rw [pathParameters] at h
    split at h
    · cases h
    · rename_i entry hentry
      refine List.forall_mem_cons.2 ⟨by rw [hentry]; rfl, ?_⟩
      split at h
      · exact ih h
      · obtain ⟨rest, hrest, -⟩ := bind_eq_ok.1 h
        exact ih hrest

/-- Each name that was not seen before gets one parameter. -/
theorem pathParameters_eq_ok {resource : Resource} {seen names : List (Option String)}
    {parameters : List String}
    (h : pathParameters resource.pathVariables seen names = .ok parameters) :
    ∃ declared : List (Option String),
      parameters = declared.map resource.variableParameter ∧ declared.Nodup ∧
      ∀ name, name ∈ declared ↔ name ∈ names ∧ name ∉ seen := by
  rw [pathParameters_eq (isSome_get?_of_pathParameters_eq_ok h), Except.ok.injEq] at h
  refine ⟨(names.filter (!seen.contains ·)).eraseDups, h.symm, nodup_eraseDups _, fun name ↦ ?_⟩
  rw [List.mem_eraseDups, List.mem_filter, Bool.not_eq_true', ← Bool.not_eq_true,
    List.contains_iff_mem]

theorem pathParameters_usedVariables {resource : Resource}
    (h : ∀ name ∈ resource.formatArguments, (resource.pathVariables.get? name).isSome) :
    pathParameters resource.pathVariables [] resource.formatArguments =
      .ok (resource.usedVariables.map resource.variableParameter) := by
  have hall : (resource.formatArguments.filter fun name ↦
      !([] : List (Option String)).contains name) = resource.formatArguments :=
    List.filter_eq_self.2 fun _ _ ↦ rfl
  rw [pathParameters_eq h, hall]
  rfl

theorem queryLine_eq {name : Option String} (hname : name ≠ none) (argument : Argument) :
    queryLine name argument = .ok (StubMethod.queryText
      ((argument.givenName.filter (!·.isEmpty) <|> name).getD "") (nameText name)) := by
  obtain ⟨text, rfl⟩ := Option.ne_none_iff_exists'.1 hname
  unfold queryLine
  cases argument.givenName.filter (!·.isEmpty) <;> rfl

namespace StubEndpoint

variable (endpoint : StubEndpoint)

theorem parameters_eq_stubMethod :
    endpoint.parameters (endpoint.resource.usedVariables.map endpoint.resource.variableParameter)
      endpoint.resource.orderedArguments =
        endpoint.stubMethod.parameters.map StubParameter.text := by
  have hresponse (type : String) :
      "final " ++ type ++ " response" = StubParameter.text ⟨type, "response"⟩ := by
    rw [show " response" = " " ++ "response" from rfl, ← String.append_assoc]
    rfl
  simp only [parameters, StubMethod.parameters, stubMethod, List.map_append, List.map_map,
    Option.toList_map, hresponse]
  rfl

theorem urlText_eq_stubMethod (h : ∀ name ∈ endpoint.resource.formatArguments, name ≠ none) :
    urlText endpoint.constant endpoint.resource.formatArguments =
      .ok endpoint.stubMethod.pathText := by
  have hnone : endpoint.resource.formatArguments.contains none = false := by
    rw [← Bool.not_eq_true, List.contains_iff_mem]
    exact fun hmem ↦ h none hmem rfl
  simp only [urlText, StubMethod.pathText, stubMethod, hnone, List.isEmpty_map]
  split <;> rfl

theorem queryLines_eq_stubMethod :
    endpoint.resource.orderedArguments.map (fun (name, a) ↦ StubMethod.queryText
      ((a.givenName.filter (!·.isEmpty) <|> name).getD "") (nameText name)) =
        endpoint.stubMethod.queryLines := by
  rw [StubMethod.queryLines, stubMethod, List.map_map]
  rfl

theorem bodyLines_eq_stubMethod : endpoint.bodyLines = endpoint.stubMethod.bodyLines := by
  rw [bodyLines, StubMethod.bodyLines, stubMethod, Option.toList_map, List.map_map]
  rfl

theorem answerLine_eq_stubMethod :
    endpoint.answerLine = StubMethod.answerText endpoint.stubMethod.responseObject := by
  simp only [answerLine, stubMethod]
  cases responseArgumentType endpoint.resource.responseType <;> rfl

/-- If the stub method can be written, its lines are those of its description. -/
theorem methodLines_eq_stubMethod (h : endpoint.resource.Renderable) :
    endpoint.methodLines = .ok endpoint.stubMethod.lines := by
  obtain ⟨lines, hlines⟩ := exists_methodLines h
  obtain ⟨leading, arguments, url, queryLines, hleading, harguments, hurl, hqueries, rfl⟩ :=
    methodLines_eq_ok hlines
  rw [pathParameters_usedVariables fun name hname ↦ (h.formatArguments name hname).2,
    Except.ok.injEq] at hleading
  obtain rfl : endpoint.resource.orderedArguments = arguments :=
    Except.ok.inj ((sortedArguments_eq h.arguments).symm.trans harguments)
  rw [urlText_eq_stubMethod endpoint fun name hname ↦ (h.formatArguments name hname).1,
    Except.ok.injEq] at hurl
  subst hleading hurl
  have hnamed : ∀ entry ∈ endpoint.resource.orderedArguments, entry.1 ≠ none := fun entry hentry ↦
    ne_none_of_mem_entries h.arguments entry (List.mem_mergeSort.1 hentry)
  rw [mapM_eq_ok_map fun entry hentry ↦ queryLine_eq (hnamed entry hentry) entry.2,
    Except.ok.injEq] at hqueries
  have hsignature : endpoint.signature (endpoint.stubMethod.parameters.map StubParameter.text) =
      endpoint.stubMethod.signature := rfl
  have hrequest : endpoint.requestLine endpoint.stubMethod.pathText =
      endpoint.stubMethod.requestLine := rfl
  rw [hlines, ← hqueries, queryLines_eq_stubMethod, parameters_eq_stubMethod, hsignature, hrequest,
    bodyLines_eq_stubMethod, answerLine_eq_stubMethod, StubMethod.lines]

end StubEndpoint

end EndpointStubs
