import EndpointStubs.Proofs.ClassText
import EndpointStubs.Proofs.RoundOfSources

/-!
# Stub and base classes link

The stub class of a controller uses the constants of its endpoints, its base
class declares the same ones in the same order, each with the template of the
endpoint it was made for. So every constant that is used is declared exactly once
if and only if the constants are distinct. The numbers after method names make
the names of the stub methods distinct, not the constants, which are coarser;
they are distinct wherever the method names are in camel case.
-/

namespace EndpointStubs

theorem freeName_eq_numberedName (used : List String) (name : String) :
    ∃ n, freeName used name = numberedName name n := by
  obtain ⟨n, hn, -⟩ := exists_freeName_eq used name
  exact ⟨n, hn⟩

namespace Controller

/-- A stub method is made for an endpoint with a method, under its own method name, numbered. -/
theorem exists_of_mem_numberEndpoints {endpoints : List (String × Resource)} {used : List String}
    {endpoint : StubEndpoint} (h : endpoint ∈ numberEndpoints used endpoints) :
    ∃ key methodName n, (key, endpoint.resource) ∈ endpoints ∧
      endpoint.resource.methodName = some methodName ∧
      endpoint.name = numberedName methodName n := by
  induction endpoints generalizing used with
  | nil => cases h
  | cons entry rest ih =>
    have hrest {used : List String} (h : endpoint ∈ numberEndpoints used rest) :
        ∃ key methodName n, (key, endpoint.resource) ∈ entry :: rest ∧
          endpoint.resource.methodName = some methodName ∧
          endpoint.name = numberedName methodName n := by
      obtain ⟨key, methodName, n, hmem, hname⟩ := ih h
      exact ⟨key, methodName, n, List.mem_cons_of_mem _ hmem, hname⟩
    obtain ⟨key, resource⟩ := entry
    rw [numberEndpoints] at h
    split at h
    · rename_i method methodName hmethod hname
      rcases List.mem_cons.1 h with rfl | h
      · obtain ⟨n, hn⟩ := freeName_eq_numberedName used methodName
        exact ⟨key, methodName, n, List.mem_cons_self, hname, hn⟩
      · exact hrest h
    · exact hrest h

/-- An endpoint with a method and a method name gets the next stub method. -/
theorem exists_numberEndpoints_cons {entry : String × Resource} (hmethod : entry.2.httpMethod ≠ none)
    (hname : entry.2.methodName ≠ none) (rest : List (String × Resource)) (used : List String) :
    ∃ endpoint names, endpoint.resource = entry.2 ∧
      numberEndpoints used (entry :: rest) = endpoint :: numberEndpoints names rest := by
  obtain ⟨key, resource⟩ := entry
  obtain ⟨method, hmethod⟩ := Option.ne_none_iff_exists'.1 hmethod
  obtain ⟨name, hname⟩ := Option.ne_none_iff_exists'.1 hname
  dsimp only at hmethod hname
  simp only [numberEndpoints, hmethod, hname]
  exact ⟨_, _, rfl, rfl⟩

theorem exists_mem_numberEndpoints {endpoints : List (String × Resource)}
    {entry : String × Resource} (hentry : entry ∈ endpoints)
    (hmethod : entry.2.httpMethod ≠ none) (hname : entry.2.methodName ≠ none)
    (used : List String) : ∃ endpoint ∈ numberEndpoints used endpoints,
      endpoint.resource = entry.2 := by
  induction endpoints generalizing used with
  | nil => cases hentry
  | cons first rest ih =>
    rcases List.mem_cons.1 hentry with rfl | hrest
    · obtain ⟨endpoint, names, hresource, hnumbered⟩ :=
        exists_numberEndpoints_cons hmethod hname rest used
      exact ⟨endpoint, hnumbered ▸ List.mem_cons_self, hresource⟩
    · rw [numberEndpoints]
      split
      · obtain ⟨endpoint, hmem, hresource⟩ := ih hrest _
        exact ⟨endpoint, List.mem_cons_of_mem _ hmem, hresource⟩
      · exact ih hrest used

theorem nodup_numberEndpoints (endpoints : List (String × Resource)) (used : List String) :
    ((numberEndpoints used endpoints).map StubEndpoint.name).Nodup ∧
      ∀ endpoint ∈ numberEndpoints used endpoints, endpoint.name ∉ used := by
  induction endpoints generalizing used with
  | nil =>
    rw [numberEndpoints]
    exact ⟨List.nodup_nil, fun _ h ↦ absurd h List.not_mem_nil⟩
  | cons entry rest ih =>
    obtain ⟨key, resource⟩ := entry
    rw [numberEndpoints]
    split
    · rename_i method methodName hmethod hname
      obtain ⟨hnodup, hfree⟩ := ih (freeName used methodName :: used)
      constructor
      · rw [List.map_cons, List.nodup_cons]
        refine ⟨fun hmem ↦ ?_, hnodup⟩
        obtain ⟨endpoint, hendpoint, heq⟩ := List.mem_map.1 hmem
        exact hfree endpoint hendpoint (heq ▸ List.mem_cons_self)
      · intro endpoint hendpoint
        rcases List.mem_cons.1 hendpoint with rfl | hendpoint
        · exact freeName_not_mem used methodName
        · exact fun hused ↦ hfree endpoint hendpoint (List.mem_cons_of_mem _ hused)
    · exact ih used

theorem nodup_stubEndpoints (controller : Controller) :
    (controller.stubEndpoints.map StubEndpoint.name).Nodup :=
  (nodup_numberEndpoints controller.orderedEndpoints []).1

/-- The method names of the controller are in camel case. -/
def HasCamelCase (controller : Controller) : Prop :=
  ∀ resource ∈ controller.resources.values, ∀ name ∈ resource.methodName, IsCamelCase name.toList

theorem HasCamelCase.nodup_constants {controller : Controller} (h : controller.HasCamelCase) :
    (controller.stubEndpoints.map StubEndpoint.constant).Nodup := by
  have hcamel : ∀ name ∈ controller.stubEndpoints.map StubEndpoint.name,
      IsCamelCase name.toList := by
    intro name hname
    obtain ⟨endpoint, hendpoint, rfl⟩ := List.mem_map.1 hname
    obtain ⟨key, methodName, n, hmem, hmethod, hnumbered⟩ :=
      exists_of_mem_numberEndpoints hendpoint
    have hvalue : endpoint.resource ∈ controller.resources.values :=
      List.mem_map.2 ⟨_, List.mem_mergeSort.1 hmem, rfl⟩
    rw [hnumbered]
    exact isCamelCase_numberedName (h _ hvalue _ hmethod) n
  have hconstants := controller.nodup_stubEndpoints.map_on (f := constantName)
    fun name hname other hother ↦
      constantName_injective_of_isCamelCase (hcamel name hname) (hcamel other hother)
  rwa [List.map_map] at hconstants

end Controller

/-- The scanner gives every route the name of its method. -/
theorem exists_isName_of_isRoute {sources : List String} {controller key : String} {fact : Fact}
    (h : fact ∈ (endpointFacts controller key (sources.flatMap scan)).filter Fact.isRoute) :
    ∃ name, fact.methodName = some name ∧ IsName name := by
  obtain ⟨hmem, hroute⟩ := List.mem_filter.1 h
  have habout : fact.isAboutMethod = true := by
    rw [Fact.isAboutMethod, hroute, Bool.true_or]
  exact (isComplete_of_mem_scan (mem_endpointFacts.1 hmem).1 habout).methodName

/-- The method names of a round of sources are capitalized words. -/
theorem exists_isName_of_methodName {sources : List String} {order : VariableOrder}
    {controller key : String} {resource : Resource}
    (hresource : (roundModel order (sources.flatMap scan)).resource? controller key =
      some resource) {methodName : String} (h : resource.methodName = some methodName) :
    ∃ name, IsName name ∧ Text.capitalize name = methodName := by
  obtain ⟨raw, hraw, rfl⟩ := resource?_roundModel.1 hresource
  obtain ⟨-, rfl⟩ := Model.resource?_summary.1 hraw
  rw [Resource.methodName_normalize] at h
  obtain ⟨fact, hfact, hname⟩ := exists_of_lastSome_eq_some h
  obtain ⟨name, hmethod, hword⟩ := exists_isName_of_isRoute hfact
  rw [Fact.capitalizedName?_eq, hmethod, Option.map_some, Option.some.injEq] at hname
  exact ⟨name, hword, hname⟩

/-- No character in a constant of a round of sources could end it in generated code. -/
theorem isNameChar_of_mem_constant {sources : List String} {order : VariableOrder} {key : String}
    {controller : Controller}
    (hcontroller : (roundModel order (sources.flatMap scan)).controller? key = some controller) :
    ∀ endpoint ∈ controller.stubEndpoints,
      ∀ c ∈ endpoint.constant.toList, Text.isNameChar c = true := by
  intro endpoint hendpoint
  obtain ⟨methodKey, methodName, n, hmem, hmethod, hnumbered⟩ :=
    Controller.exists_of_mem_numberEndpoints hendpoint
  have hresource : (roundModel order (sources.flatMap scan)).resource? key methodKey =
      some endpoint.resource := by
    rw [Model.resource?, hcontroller, Option.bind_some]
    exact Registry.get?_eq_some_iff.2 (List.mem_mergeSort.1 hmem)
  obtain ⟨name, hword, rfl⟩ := exists_isName_of_methodName hresource hmethod
  have hclass := Text.holdsNames_isNameChar
  have hcapitalized := hclass.forall_mem_capitalize fun c hc ↦
    Text.isNameChar_of_isWord (hword.2 c hc)
  rw [StubEndpoint.constant, hnumbered]
  exact hclass.forall_mem_constantName (hclass.forall_mem_numberedName hcapitalized n)

/-- What the base class declares for an endpoint. -/
def StubEndpoint.declaration (endpoint : StubEndpoint) : String × List Char :=
  (endpoint.constant, Java.escape (endpoint.resource.template.getD "").toList)

/-- Each endpoint's constant is declared once, with its own template, if and only if the constants
are distinct. -/
theorem declarations_unique_iff (endpoints : List StubEndpoint) :
    (∀ endpoint ∈ endpoints,
      (endpoints.map StubEndpoint.declaration).filter (·.1 = endpoint.constant) =
        [endpoint.declaration]) ↔
      (endpoints.map StubEndpoint.constant).Nodup := by
  have hconstants (l : List StubEndpoint) (constant : String) :
      ((l.map StubEndpoint.declaration).filter (·.1 = constant)).length =
        (l.map StubEndpoint.constant).count constant := by
    rw [← List.countP_eq_length_filter, List.countP_map, List.count, List.countP_map]
    congr 1
  constructor
  · intro hunique
    rw [List.nodup_iff_count_le_one]
    intro constant
    by_cases hmem : constant ∈ endpoints.map StubEndpoint.constant
    · obtain ⟨endpoint, hendpoint, rfl⟩ := List.mem_map.1 hmem
      rw [← hconstants, hunique endpoint hendpoint]
      exact le_refl 1
    · rw [List.count_eq_zero_of_not_mem hmem]
      exact Nat.zero_le 1
  · intro hnodup endpoint hendpoint
    have hmem : endpoint.declaration ∈
        (endpoints.map StubEndpoint.declaration).filter (·.1 = endpoint.constant) :=
      List.mem_filter.2 ⟨List.mem_map_of_mem hendpoint, decide_eq_true rfl⟩
    have hlength := hconstants endpoints endpoint.constant
    rw [List.count_eq_one_of_mem hnodup (List.mem_map_of_mem hendpoint),
      List.length_eq_one_iff] at hlength
    obtain ⟨declaration, hone⟩ := hlength
    rw [hone, List.mem_singleton] at hmem
    rw [hone, hmem]

/-- The two classes of a controller of sources: their texts, the constants that the stub methods
use, and the constants that are declared. They link if and only if the constants are distinct, as
they are if the method names are in camel case. -/
theorem stub_links_base {sources : List String} {order : VariableOrder} {key : String}
    {controller : Controller}
    (hcontroller : (roundModel order (sources.flatMap scan)).controller? key = some controller)
    (suffixes : Suffixes) :
    ∃ stubPath stubLines basePath baseLines,
      Model.stubFile suffixes key controller = .ok (stubPath, fileText stubLines) ∧
      Model.baseFile suffixes key controller = (basePath, fileText baseLines) ∧
      stubLines.filterMap usedConstant? = controller.stubEndpoints.map StubEndpoint.constant ∧
      ((∀ endpoint ∈ controller.stubEndpoints,
        (baseLines.filterMap declaredConstant?).filter (·.1 = endpoint.constant) =
          [endpoint.declaration]) ↔
        (controller.stubEndpoints.map StubEndpoint.constant).Nodup) ∧
      (controller.HasCamelCase → (controller.stubEndpoints.map StubEndpoint.constant).Nodup) := by
  have hname := isNameChar_of_mem_constant hcontroller
  have hmem : (key, controller) ∈
      (roundModel order (sources.flatMap scan)).controllers.entries :=
    Registry.get?_eq_some_iff.1 hcontroller
  let names := controllerName key controller.packageName
  obtain ⟨text, htext⟩ := controller.exists_stubText (fun entry hentry ↦
    (hasNamedParameters_scan sources).renderable
      (Model.resource?_eq_some_iff.2 ⟨controller, hmem, hentry⟩)) suffixes names.1 names.2
  obtain ⟨methods, hmethods, rfl⟩ := Controller.stubText_eq_ok htext
  refine ⟨classFile names.1 (names.2 ++ suffixes.stub),
    controller.stubHead suffixes names.1 names.2 ++ methods.flatMap ("" :: ·) ++ ["\x7d"],
    classFile names.1 (names.2 ++ suffixes.base), controller.baseLines suffixes names.1 names.2,
    ?_, ?_, ?_, ?_, Controller.HasCamelCase.nodup_constants⟩
  · simp only [Model.stubFile, names, htext, ok_bind]
    rfl
  · rfl
  · exact Controller.filterMap_usedConstant? hname hmethods suffixes names.1 names.2
  · rw [Controller.filterMap_declaredConstant? hname]
    exact declarations_unique_iff controller.stubEndpoints

/-- Two overloads, of which the second one is numbered. -/
theorem stub_links_base_overloads :
    let sources := ["@RestController class A \x7b @GetMapping(\"/a\") String get() \x7b\x7d
      @GetMapping(\"/b\") String get(@RequestParam int n) \x7b\x7d \x7d"]
    let get : Resource :=
      { methodName := some "Get", httpMethod := some .get, responseType := some "String" }
    let controller : Controller :=
      { packageName := some ""
        resources := .ofList
          [("A.get()", { get with template := some "/a" }),
            ("A.get(int)", { get with
              template := some "/b"
              arguments := .ofList [(some "n", ⟨some "n", some "int", none⟩)] })] }
    (roundModel .textual (sources.flatMap scan)).controller? "A" = some controller ∧
    ∃ stubPath stubLines basePath baseLines,
      Model.stubFile {} "A" controller = .ok (stubPath, fileText stubLines) ∧
      Model.baseFile {} "A" controller = (basePath, fileText baseLines) ∧
      stubLines.filterMap usedConstant? = ["GET_URL", "GET2_URL"] ∧
      (baseLines.filterMap declaredConstant?).filter (·.1 = "GET2_URL") =
        [("GET2_URL", ['/', 'b'])] := by
  intro sources get controller
  have hcontroller : (roundModel .textual (sources.flatMap scan)).controller? "A" =
      some controller := by
    decide +kernel
  have hordered : controller.orderedEndpoints = controller.resources.entries :=
    List.mergeSort_of_pairwise (by decide +kernel)
  have hdeclarations : controller.stubEndpoints.map StubEndpoint.declaration =
      [("GET_URL", ['/', 'a']), ("GET2_URL", ['/', 'b'])] := by
    rw [Controller.stubEndpoints, hordered]
    decide +kernel
  have hconstants : controller.stubEndpoints.map StubEndpoint.constant = ["GET_URL", "GET2_URL"] := by
    have hfirst := congrArg (List.map Prod.fst) hdeclarations
    rwa [List.map_map] at hfirst
  obtain ⟨stubPath, stubLines, basePath, baseLines, hstub, hbase, hused, hunique, -⟩ :=
    stub_links_base hcontroller {}
  have hlinked := hunique.2 (by rw [hconstants]; decide)
  obtain ⟨endpoint, hendpoint, hdeclaration⟩ :=
    List.mem_map.1 (hdeclarations ▸ List.mem_cons_of_mem _ List.mem_cons_self :
      ("GET2_URL", ['/', 'b']) ∈ controller.stubEndpoints.map StubEndpoint.declaration)
  have hsecond := hlinked endpoint hendpoint
  rw [hdeclaration, show endpoint.constant = "GET2_URL" from congrArg Prod.fst hdeclaration]
    at hsecond
  exact ⟨hcontroller, stubPath, stubLines, basePath, baseLines, hstub, hbase,
    hused.trans hconstants, hsecond⟩

/-- Two names that differ in letter case alone have one constant, which is declared twice. -/
theorem stub_not_links_base :
    let sources := ["@RestController class A \x7b
      @GetMapping(\"/a\") String getURL() \x7b return null; \x7d
      @GetMapping(\"/b\") String getUrl() \x7b return null; \x7d \x7d"]
    let url : Resource := { httpMethod := some .get, responseType := some "String" }
    let controller : Controller :=
      { packageName := some ""
        resources := .ofList
          [("A.getURL()", { url with methodName := some "GetURL", template := some "/a" }),
            ("A.getUrl()", { url with methodName := some "GetUrl", template := some "/b" })] }
    (roundModel .textual (sources.flatMap scan)).controller? "A" = some controller ∧
    controller.stubEndpoints.map StubEndpoint.name = ["GetURL", "GetUrl"] ∧
    (Model.baseFile {} "A" controller).2 = fileText (controller.baseLines {} "" "A") ∧
    (controller.baseLines {} "" "A").filterMap declaredConstant? =
      [("GET_URL_URL", ['/', 'a']), ("GET_URL_URL", ['/', 'b'])] := by
  intro sources url controller
  have hcontroller : (roundModel .textual (sources.flatMap scan)).controller? "A" =
      some controller := by
    decide +kernel
  have hordered : controller.orderedEndpoints = controller.resources.entries :=
    List.mergeSort_of_pairwise (by decide +kernel)
  have hname : controllerName "A" controller.packageName = ("", "A") := by decide +kernel
  refine ⟨hcontroller, ?_, ?_, ?_⟩
  · rw [Controller.stubEndpoints, hordered]
    decide +kernel
  · rw [Model.baseFile, hname]
    rfl
  · rw [Controller.filterMap_declaredConstant? (isNameChar_of_mem_constant hcontroller),
      Controller.stubEndpoints, hordered]
    decide +kernel

end EndpointStubs
