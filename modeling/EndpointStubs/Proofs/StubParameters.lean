import EndpointStubs.Proofs.CheckedStubs
import EndpointStubs.Proofs.RenderOrder
import Mathlib.Data.List.Nodup

/-!
# The parameters of stub methods

Whatever the endpoint is, the body of its stub method uses parameters of the method
only. For endpoints of sources in which each parameter of a method is annotated once
at most and no two methods of a type share a key, the parameters that stand for the
parts of a request have different names, as those of the method do. The parameter
for the response has the fixed name `response`, so that the names differ unless a
part of the request has this name as well.
-/

namespace EndpointStubs

namespace StubMethod

def parameterNames (method : StubMethod) : List String :=
  method.parameters.map StubParameter.name

/-- The identifiers that the body of the method uses. -/
def usedNames (method : StubMethod) : List String :=
  method.formatArguments ++ method.queryValues.map Prod.snd ++ method.bodyObject.toList ++
    method.responseObject.toList

end StubMethod

namespace Resource

/-- The names of the parameters for the parts of the request of one kind. -/
def partNames (resource : Resource) : FactKind → List (Option String)
  | .pathVariable => resource.usedVariables
  | .requestParam => resource.orderedArguments.map Prod.fst
  | .requestBody => resource.requestBody.toList.map Argument.name
  | .controller | .getRoute | .postRoute | .unknown => []

def requestNames (resource : Resource) : List (Option String) :=
  [FactKind.pathVariable, .requestParam, .requestBody].flatMap resource.partNames

end Resource

namespace StubEndpoint

variable (endpoint : StubEndpoint)

/-- The body of a stub method uses its parameters only. -/
theorem usedNames_subset_parameterNames :
    ∀ name ∈ endpoint.stubMethod.usedNames, name ∈ endpoint.stubMethod.parameterNames := by
  intro name hname
  rw [StubMethod.parameterNames, StubMethod.parameters, List.map_append, List.mem_append]
  simp only [StubMethod.usedNames, List.mem_append] at hname
  rcases hname with ((hname | hname) | hname) | hname
  · obtain ⟨used, hused, rfl⟩ := List.mem_map.1 hname
    refine .inl (List.mem_map.2 ⟨_, List.mem_append_left _ (List.mem_append_left _
      (List.mem_map_of_mem (List.mem_eraseDups.2 hused))), rfl⟩)
  · simp only [stubMethod, List.map_map, List.mem_map] at hname
    obtain ⟨argument, hargument, rfl⟩ := hname
    exact .inl (List.mem_map.2 ⟨_, List.mem_append_left _ (List.mem_append_right _
      (List.mem_map_of_mem hargument)), rfl⟩)
  · simp only [stubMethod, Option.toList_map, List.mem_map] at hname
    obtain ⟨body, hbody, rfl⟩ := hname
    exact .inl (List.mem_map.2 ⟨_, List.mem_append_right _ (List.mem_map_of_mem hbody), rfl⟩)
  · simp only [stubMethod, Option.toList_map, List.mem_map] at hname
    obtain ⟨type, htype, rfl⟩ := hname
    refine .inr (List.mem_map.2 ⟨⟨type, "response"⟩, ?_, rfl⟩)
    simpa [stubMethod] using htype

theorem map_name_requestParameters :
    endpoint.stubMethod.requestParameters.map StubParameter.name =
      endpoint.resource.requestNames.map nameText := by
  simp [stubMethod, Resource.requestNames, Resource.partNames, Function.comp_def]

end StubEndpoint

/-- The parameter with this annotation stands for a part of the request. -/
def Java.AnnotationUse.isRequestPart (a : Java.AnnotationUse) : Bool :=
  ["RequestParam", "PathVariable", "RequestBody"].contains a.name

theorem Java.AnnotationUse.isRequestPart_of_allows {a : AnnotationUse}
    (h : Site.parameter.allows (Site.parameter.kindOf a.name) = true) : a.isRequestPart = true := by
  simp only [Site.kindOf] at h
  unfold FactKind.ofAnnotationName at h
  split at h <;> first | (rename_i hname; rw [isRequestPart, hname]; rfl) | cases h

/-- A fact about a parameter comes from the annotation of the parameter. -/
theorem exists_parameter_of_isParameter {controller : String} {m : Java.Method} {fact : Fact}
    (h : fact ∈ methodFacts controller m) (hparameter : fact.isParameter = true) :
    ∃ p ∈ m.parameters, ∃ a ∈ p.annotations.filter (·.isRequestPart),
      parameterFact controller m p a = fact := by
  rcases mem_methodFacts_iff.1 h with ⟨a, -, rfl⟩ | ⟨p, hp, a, ha, rfl⟩
  · rw [Fact.isParameter, routeFact_kind, Site.not_allows_kindOf (by decide)] at hparameter
    cases hparameter
  · exact ⟨p, hp, a, List.mem_filter.2 ⟨(List.mem_filter.1 ha).1,
      Java.AnnotationUse.isRequestPart_of_allows hparameter⟩, rfl⟩

/-- The methods are read with different parameters, each of them with one annotation for a part of
the request at most, and with different keys. Not all legal sources are read so: of a name with a
dollar sign only the end is read, and overloads can share a key. -/
structure HasLegalParameters (methods : List (String × Java.Method)) : Prop where
  /-- The parameters of a method have different names. -/
  distinct : ∀ x ∈ methods, (x.2.parameters.map Java.Parameter.name).Nodup
  /-- A parameter stands for one part of the request at most. -/
  single : ∀ x ∈ methods, ∀ p ∈ x.2.parameters,
    (p.annotations.filter (·.isRequestPart)).length ≤ 1
  /-- The methods of a type have different keys. This leaves out two overloads of which one has a
  receiver and the other a parameter of that type, and those that differ in a parameter with
  brackets behind its name only. -/
  unique : ∀ x ∈ methods, ∀ y ∈ methods, x.1 = y.1 →
    methodKey x.1 x.2 = methodKey y.1 y.2 → x.2 = y.2

instance (methods : List (String × Java.Method)) : Decidable (HasLegalParameters methods) :=
  decidable_of_iff ((∀ x ∈ methods, _) ∧ (∀ x ∈ methods, _) ∧ (∀ x ∈ methods, _))
    ⟨fun ⟨distinct, single, unique⟩ ↦ ⟨distinct, single, unique⟩,
      fun h ↦ ⟨h.distinct, h.single, h.unique⟩⟩

namespace Resource

variable {facts : List Fact} {order : VariableOrder} {controller key : String}
  {resource : Resource}

theorem nodup_partNames (resource : Resource) (kind : FactKind) :
    (resource.partNames kind).Nodup := by
  unfold partNames
  split
  · exact nodup_eraseDups _
  · exact ((List.mergeSort_perm _ _).map Prod.fst).nodup_iff.2 resource.arguments.nodup_keys
  · cases resource.requestBody with
    | none => exact List.nodup_nil
    | some body => exact List.nodup_singleton _
  all_goals exact List.nodup_nil

/-- Each part of the request is reported by a fact of its kind. -/
theorem exists_fact_of_mem_partNames
    (hresource : (roundModel order facts).resource? controller key = some resource)
    {kind : FactKind} {name : Option String} (h : name ∈ resource.partNames kind) :
    ∃ fact ∈ endpointFacts controller key facts, fact.isParameter = true ∧ fact.kind = kind ∧
      fact.name = name := by
  obtain ⟨raw, hraw, rfl⟩ := resource?_roundModel.1 hresource
  have hnamed := Model.name_of_get?_pathVariables hraw
  obtain ⟨-, rfl⟩ := Model.resource?_summary.1 hraw
  unfold partNames at h
  split at h
  · have hregistered := isSome_get?_of_mem_formatArguments hnamed nofun (List.mem_eraseDups.1 h)
    obtain ⟨v, hv⟩ := Option.isSome_iff_exists.1 hregistered
    obtain ⟨fact, hfact, hkind, hname, -⟩ := exists_fact_of_get?_parameters hv
    exact ⟨fact, hfact, by rw [Fact.isParameter, hkind]; rfl, hkind, hname⟩
  · obtain ⟨⟨name, v⟩, hentry, rfl⟩ := List.mem_map.1 h
    rw [orderedArguments, arguments_normalize, List.mem_mergeSort] at hentry
    obtain ⟨fact, hfact, hkind, hname, -⟩ :=
      exists_fact_of_get?_parameters (Registry.get?_eq_some_iff.2 hentry)
    exact ⟨fact, hfact, by rw [Fact.isParameter, hkind]; rfl, hkind, hname⟩
  · obtain ⟨body, hbody, rfl⟩ := List.mem_map.1 h
    rw [requestBody_normalize, Option.mem_toList] at hbody
    obtain ⟨fact, hfact, hargument⟩ := exists_of_lastSome_eq_some hbody
    obtain ⟨hmem, hkind⟩ := List.mem_filter.1 hfact
    rw [decide_eq_true_eq] at hkind
    refine ⟨fact, hmem, by rw [Fact.isParameter, hkind]; rfl, hkind, ?_⟩
    rw [← Option.some.inj hargument]
    rfl
  all_goals cases h

end Resource

namespace HasLegalParameters

variable {sources : List String} {order : VariableOrder} {controller key : String}
  {resource : Resource} (hlegal : HasLegalParameters (sources.flatMap declaredMethods))

section Facts

include hlegal

/-- The facts about an endpoint are about one method. -/
theorem exists_method_of_endpointFacts
    (hne : endpointFacts controller key (sources.flatMap scan) ≠ []) :
    ∃ m, (controller, m) ∈ sources.flatMap declaredMethods ∧
      ∀ fact ∈ endpointFacts controller key (sources.flatMap scan),
        fact ∈ methodFacts controller m := by
  obtain ⟨first, hfirst⟩ := List.exists_mem_of_ne_nil _ hne
  obtain ⟨m, hm, hkey, -⟩ := exists_declaredMethod_of_mem_endpointFacts hfirst
  refine ⟨m, hm, fun fact hfact ↦ ?_⟩
  obtain ⟨n, hn, hkey', hmem⟩ := exists_declaredMethod_of_mem_endpointFacts hfact
  obtain rfl : n = m := hlegal.unique _ hn _ hm rfl (hkey'.trans hkey.symm)
  exact hmem

/-- A method has one fact at most about its parameter of a name. -/
theorem eq_of_name_eq {m : Java.Method} (hm : (controller, m) ∈ sources.flatMap declaredMethods)
    {f g : Fact} (hf : f ∈ methodFacts controller m) (hg : g ∈ methodFacts controller m)
    (hfparameter : f.isParameter = true) (hgparameter : g.isParameter = true)
    (hname : f.name = g.name) : f = g := by
  obtain ⟨p, hp, a, ha, rfl⟩ := exists_parameter_of_isParameter hf hfparameter
  obtain ⟨q, hq, b, hb, rfl⟩ := exists_parameter_of_isParameter hg hgparameter
  obtain rfl : p = q :=
    List.inj_on_of_nodup_map (hlegal.distinct _ hm) hp hq (Option.some.inj hname)
  obtain ⟨c, hc⟩ := List.length_eq_one_iff.1
    (le_antisymm (hlegal.single _ hm p hp) (List.length_pos_of_mem ha))
  rw [hc, List.mem_singleton] at ha hb
  rw [ha, hb]

end Facts

section Endpoints

variable (hresource : (roundModel order (sources.flatMap scan)).resource? controller key =
  some resource)

include hlegal hresource

/-- The parts of a request have different names. -/
theorem nodup_requestNames : resource.requestNames.Nodup := by
  refine List.nodup_flatMap.2 ⟨fun kind _ ↦ resource.nodup_partNames kind, ?_⟩
  have hkinds : [FactKind.pathVariable, .requestParam, .requestBody].Pairwise (· ≠ ·) := by decide
  refine hkinds.imp fun hne name hname hother ↦ hne ?_
  obtain ⟨f, hf, hfparameter, rfl, rfl⟩ := Resource.exists_fact_of_mem_partNames hresource hname
  obtain ⟨g, hg, hgparameter, rfl, hsame⟩ := Resource.exists_fact_of_mem_partNames hresource hother
  obtain ⟨m, hm, hfacts⟩ := hlegal.exists_method_of_endpointFacts (List.ne_nil_of_mem hf)
  rw [hlegal.eq_of_name_eq hm (hfacts f hf) (hfacts g hg) hfparameter hgparameter hsame.symm]

/-- The parts of a request have the names of annotated parameters of one method. -/
theorem exists_parameter_of_requestNames :
    ∃ m, (controller, m) ∈ sources.flatMap declaredMethods ∧
      ∀ name ∈ resource.requestNames, ∃ p ∈ m.parameters, name = some p.name ∧
        ∃ a ∈ p.annotations, a.isRequestPart = true := by
  obtain ⟨raw, hraw, -⟩ := resource?_roundModel.1 hresource
  obtain ⟨m, hm, hfacts⟩ :=
    hlegal.exists_method_of_endpointFacts (Model.resource?_summary.1 hraw).1
  refine ⟨m, hm, fun name hname ↦ ?_⟩
  obtain ⟨kind, -, hpart⟩ := List.mem_flatMap.1 hname
  obtain ⟨fact, hfact, hparameter, -, rfl⟩ := Resource.exists_fact_of_mem_partNames hresource hpart
  obtain ⟨p, hp, a, ha, rfl⟩ := exists_parameter_of_isParameter (hfacts fact hfact) hparameter
  obtain ⟨hmem, hrequest⟩ := List.mem_filter.1 ha
  exact ⟨p, hp, rfl, a, hmem, hrequest⟩

end Endpoints

end HasLegalParameters

namespace StubMethod

/-- The names of the parameters differ if those for the request do and none of them is that of the
response. -/
theorem nodup_parameterNames_iff {method : StubMethod}
    (hrequest : (method.requestParameters.map StubParameter.name).Nodup)
    (hresponse : ∀ response ∈ method.responseParameter, response.name = "response") :
    method.parameterNames.Nodup ↔ method.responseParameter = none ∨
      "response" ∉ method.requestParameters.map StubParameter.name := by
  rw [parameterNames, parameters, List.map_append, List.nodup_append']
  cases h : method.responseParameter with
  | none => simp [hrequest]
  | some response =>
    rw [h] at hresponse
    simp [hrequest, hresponse response rfl, List.disjoint_singleton]

end StubMethod

/-! ## Stub methods of sources -/

/-- A controller whose stub methods can all be written has the class that they describe. -/
theorem Model.stubFile_eq_stubMethods {controller : Controller}
    (h : ∀ endpoint ∈ controller.stubEndpoints, endpoint.resource.Renderable)
    (suffixes : Suffixes) (key : String) :
    stubFile suffixes key controller =
      .ok (stubPath suffixes key controller,
        fileText (controller.stubHead suffixes (controllerName key controller.packageName).1
            (controllerName key controller.packageName).2 ++
          ((controller.stubEndpoints.map StubEndpoint.stubMethod).map StubMethod.lines).flatMap
            ("" :: ·) ++ ["\x7d"])) := by
  have hmethods : controller.stubEndpoints.mapM StubEndpoint.methodLines =
      .ok (controller.stubEndpoints.map fun endpoint ↦ endpoint.stubMethod.lines) :=
    mapM_eq_ok_map fun endpoint hendpoint ↦ endpoint.methodLines_eq_stubMethod (h _ hendpoint)
  have htext (packageName simpleName : String) :
      controller.stubText suffixes packageName simpleName = .ok (fileText
        (controller.stubHead suffixes packageName simpleName ++
          (controller.stubEndpoints.map fun endpoint ↦ endpoint.stubMethod.lines).flatMap
            ("" :: ·) ++ ["\x7d"])) := by
    rw [Controller.stubText, hmethods]
    rfl
  rw [stubFile, List.map_map]
  simp only [htext]
  rfl

/-- If the parameters of the methods of the sources are legal, the stub methods of a controller have
different parameters for the parts of a request: the names are those of annotated parameters of one
method. Only the parameter for the response can have the name of another one, and it does if and
only if that parameter is named `response`. Whatever the body of a stub method uses is one of its
parameters. -/
theorem stub_parameters_distinct_iff {sources : List String}
    (hlegal : HasLegalParameters (sources.flatMap declaredMethods)) (order : VariableOrder)
    (suffixes : Suffixes) {key : String} {controller : Controller}
    (hcontroller : (roundModel order (sources.flatMap scan)).controller? key = some controller) :
    let names := controllerName key controller.packageName
    let methods := controller.stubEndpoints.map StubEndpoint.stubMethod
    Model.stubFile suffixes key controller =
        .ok (Model.stubPath suffixes key controller,
          fileText (controller.stubHead suffixes names.1 names.2 ++
            (methods.map StubMethod.lines).flatMap ("" :: ·) ++ ["\x7d"])) ∧
      ∀ method ∈ methods,
        (∃ m, (key, m) ∈ sources.flatMap declaredMethods ∧
          ∀ parameter ∈ method.requestParameters, ∃ p ∈ m.parameters,
            p.name = parameter.name ∧ ∃ a ∈ p.annotations, a.isRequestPart = true) ∧
        (method.requestParameters.map StubParameter.name).Nodup ∧
        (method.parameterNames.Nodup ↔ method.responseParameter = none ∨
          "response" ∉ method.requestParameters.map StubParameter.name) ∧
        ∀ name ∈ method.usedNames, name ∈ method.parameterNames := by
  intro names methods
  have hresource : ∀ endpoint ∈ controller.stubEndpoints, ∃ methodKey,
      (roundModel order (sources.flatMap scan)).resource? key methodKey =
        some endpoint.resource := by
    intro endpoint hendpoint
    obtain ⟨methodKey, hentry⟩ := Controller.numberEndpoints_resource_mem hendpoint
    refine ⟨methodKey, Model.resource?_eq_some_iff.2 ⟨controller, ?_, List.mem_mergeSort.1 hentry⟩⟩
    exact Registry.get?_eq_some_iff.1 hcontroller
  refine ⟨Model.stubFile_eq_stubMethods (fun endpoint hendpoint ↦ ?_) suffixes key, ?_⟩
  · obtain ⟨methodKey, hresource⟩ := hresource endpoint hendpoint
    exact (hasNamedParameters_scan sources).renderable hresource
  · intro method hmethod
    obtain ⟨endpoint, hendpoint, rfl⟩ := List.mem_map.1 hmethod
    obtain ⟨methodKey, hresource⟩ := hresource endpoint hendpoint
    obtain ⟨m, hm, hdeclared⟩ := hlegal.exists_parameter_of_requestNames hresource
    have hnames := endpoint.map_name_requestParameters
    have hrequest : (endpoint.stubMethod.requestParameters.map StubParameter.name).Nodup := by
      rw [hnames]
      refine List.Nodup.map_on (fun a ha b hb ↦ ?_) (hlegal.nodup_requestNames hresource)
      obtain ⟨p, -, rfl, -⟩ := hdeclared a ha
      obtain ⟨q, -, rfl, -⟩ := hdeclared b hb
      exact congrArg some
    refine ⟨⟨m, hm, fun parameter hparameter ↦ ?_⟩, hrequest,
      StubMethod.nodup_parameterNames_iff hrequest fun response hresponse ↦ ?_,
      endpoint.usedNames_subset_parameterNames⟩
    · have hname := List.mem_map_of_mem (f := StubParameter.name) hparameter
      rw [hnames] at hname
      obtain ⟨_, hname, heq⟩ := List.mem_map.1 hname
      obtain ⟨p, hp, rfl, hannotated⟩ := hdeclared _ hname
      exact ⟨p, hp, heq, hannotated⟩
    · obtain ⟨type, -, rfl⟩ := Option.map_eq_some_iff.1 hresponse
      rfl

/-- A path variable that is used twice, a query argument with another name and a body. -/
theorem stub_parameters_distinct_of_parts :
    let sources := ["@RestController interface A \x7b @PostMapping(\"/\x7bid\x7d/\x7bid\x7d\")
String f(@PathVariable int id, @RequestParam(\"q\") int n, @RequestBody Item item); \x7d"]
    let method : StubMethod :=
      { name := "F", verb := "post", constant := "F_URL"
        requestParameters := [⟨"int", "id"⟩, ⟨"int", "n"⟩, ⟨"Item", "item"⟩]
        responseParameter := some ⟨"String", "response"⟩, formatArguments := ["id", "id"]
        queryValues := [("q", "n")], bodyObject := some "item", responseObject := some "response" }
    HasLegalParameters (sources.flatMap declaredMethods) ∧
      ∃ controller,
        (roundModel .textual (sources.flatMap scan)).controller? "A" = some controller ∧
        controller.stubEndpoints.map StubEndpoint.stubMethod = [method] ∧
        method.parameterNames.Nodup ∧ ∀ name ∈ method.usedNames, name ∈ method.parameterNames := by
  intro sources method
  let resource : Resource :=
    { methodName := some "F", httpMethod := some .post, template := some "/%s/%s"
      responseType := some "String", hasPathVariable := true
      arguments := .ofList [(some "n", ⟨some "n", some "int", some "q"⟩)]
      pathVariables := .ofList [(some "id", ⟨some "id", some "int", none⟩)]
      requestBody := some ⟨some "item", some "Item", none⟩
      formatArguments := [some "id", some "id"] }
  let controller : Controller :=
    { packageName := some "", resources := .ofList [("A.f(int,int,Item)", resource)] }
  have hlegal : HasLegalParameters (sources.flatMap declaredMethods) := by decide +kernel
  have hcontroller : (roundModel .textual (sources.flatMap scan)).controller? "A" =
      some controller := by
    decide +kernel
  have hordered : controller.orderedEndpoints = controller.resources.entries :=
    List.mergeSort_of_pairwise (by decide +kernel)
  have harguments : resource.orderedArguments = resource.arguments.entries :=
    List.mergeSort_of_pairwise (by decide +kernel)
  have hendpoints : controller.stubEndpoints = [⟨"F", .post, resource⟩] := by
    rw [Controller.stubEndpoints, hordered]
    decide +kernel
  have hmethods : controller.stubEndpoints.map StubEndpoint.stubMethod = [method] := by
    simp only [hendpoints, List.map_cons, List.map_nil, StubEndpoint.stubMethod, harguments]
    decide +kernel
  obtain ⟨-, hmethod⟩ := stub_parameters_distinct_iff hlegal .textual {} hcontroller
  rw [hmethods] at hmethod
  obtain ⟨-, -, hiff, hused⟩ := hmethod method (List.mem_singleton_self _)
  exact ⟨hlegal, controller, hcontroller, hmethods, hiff.2 (.inr (by decide)), hused⟩

/-- The query argument and the response have one name. -/
theorem stub_parameters_not_distinct :
    let sources := ["@RestController class A \x7b @GetMapping(\"/f\")
String f(@RequestParam String response) \x7b return response; \x7d \x7d"]
    let method : StubMethod :=
      { name := "F", verb := "get", constant := "F_URL"
        requestParameters := [⟨"String", "response"⟩]
        responseParameter := some ⟨"String", "response"⟩, formatArguments := []
        queryValues := [("response", "response")], bodyObject := none
        responseObject := some "response" }
    HasLegalParameters (sources.flatMap declaredMethods) ∧
      (∃ controller,
        (roundModel .textual (sources.flatMap scan)).controller? "A" = some controller ∧
        controller.stubEndpoints.map StubEndpoint.methodLines = [.ok method.lines]) ∧
      method.signature = "    public void F(final String response, final String response) \x7b" ∧
      ¬method.parameterNames.Nodup := by
  intro sources method
  let resource : Resource :=
    { methodName := some "F", httpMethod := some .get, template := some "/f"
      responseType := some "String"
      arguments := .ofList [(some "response", ⟨some "response", some "String", none⟩)] }
  let controller : Controller :=
    { packageName := some "", resources := .ofList [("A.f(String)", resource)] }
  have hcontroller : (roundModel .textual (sources.flatMap scan)).controller? "A" =
      some controller := by
    decide +kernel
  have hordered : controller.orderedEndpoints = controller.resources.entries :=
    List.mergeSort_of_pairwise (by decide +kernel)
  have harguments : resource.orderedArguments = resource.arguments.entries :=
    List.mergeSort_of_pairwise (by decide +kernel)
  have hendpoints : controller.stubEndpoints = [⟨"F", .get, resource⟩] := by
    rw [Controller.stubEndpoints, hordered]
    decide +kernel
  have hmethod : StubEndpoint.stubMethod ⟨"F", .get, resource⟩ = method := by
    simp only [StubEndpoint.stubMethod, harguments]
    decide +kernel
  have hrenderable : resource.Renderable :=
    ⟨fun _ hname ↦ absurd hname List.not_mem_nil, by decide +kernel⟩
  refine ⟨by decide +kernel, ⟨controller, hcontroller, ?_⟩, by decide +kernel, by decide⟩
  rw [hendpoints, List.map_singleton, ← hmethod]
  exact congrArg (fun lines ↦ [lines]) (StubEndpoint.methodLines_eq_stubMethod _ hrenderable)

end EndpointStubs
