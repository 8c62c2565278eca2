import EndpointStubs.Proofs.ArgumentReading
import EndpointStubs.Proofs.LinkedClasses

/-!
# Paths given by a literal

A method whose mapping annotation holds a single string literal has the content
of that literal as its template, as it is written, and its constant is declared
with that content escaped. So the declared literal denotes what the literal of
the annotation denotes if and only if there is no escape in it: escapes are
never undone, but they are made again.
-/

namespace EndpointStubs

open Java

/-- The annotation makes an endpoint of a method. -/
def Java.AnnotationUse.isMapping (a : AnnotationUse) : Bool :=
  a.name == "GetMapping" || a.name == "PostMapping"

theorem Java.AnnotationUse.isMapping_iff {a : AnnotationUse} :
    a.isMapping = true ↔ Site.method.kindOf a.name ≠ .unknown := by
  rw [isMapping, Bool.or_eq_true, beq_iff_eq, beq_iff_eq]
  constructor
  · rintro (h | h) <;> rw [h] <;> decide
  · intro h
    simp only [Site.kindOf] at h
    unfold FactKind.ofAnnotationName at h
    split at h <;> first | exact .inl ‹_› | exact .inr ‹_› | exact absurd rfl h

theorem name_eq_of_kindOf_pathVariable {name : String}
    (h : Site.parameter.kindOf name = .pathVariable) : name = "PathVariable" := by
  simp only [Site.kindOf] at h
  split at h
  · unfold FactKind.ofAnnotationName at h
    split at h <;> first | rfl | cases h
  · cases h

/-- The only mapping annotation of the method has the arguments, and no parameter is a path
variable. -/
structure Java.Method.HasLiteralPath (m : Java.Method) (arguments : Written.PathArguments) :
    Prop where
  mapping : ∃ a, m.annotations.filter (·.isMapping) = [a] ∧ a.arguments = some arguments.text
  noVariables : ∀ p ∈ m.parameters, ∀ a ∈ p.annotations, a.name ≠ "PathVariable"

section Facts

variable {controller : String} {m : Java.Method} {fact : Fact}

/-- What the fact of a mapping annotation says. -/
theorem routeFact_eq {a : AnnotationUse} (h : a.isMapping = true) :
    routeFact controller m a =
      { kind := Site.method.kindOf a.name, annotationName := a.name,
        element := methodKey controller m, controller, methodKey := some (methodKey controller m),
        methodName := some m.name, path := ((attributes a.arguments).get? "path").getD []
        value := ((attributes a.arguments).get? "value").getD []
        typeText := some m.returnType } := by
  simp only [routeFact]
  exact if_neg (AnnotationUse.isMapping_iff.1 h)

theorem Fact.isRoute_eq (fact : Fact) : fact.isRoute = Site.method.allows fact.kind := by
  cases hkind : fact.kind <;> simp [Fact.isRoute, Fact.routeMethod?, Site.allows, hkind]

theorem isRoute_routeFact {a : AnnotationUse} :
    (routeFact controller m a).isRoute = true ↔ a.isMapping = true := by
  rw [Fact.isRoute_eq, routeFact_kind, AnnotationUse.isMapping_iff]
  constructor
  · intro hallows hunknown
    rw [hunknown] at hallows
    cases hallows
  · exact (Site.method.kindOf_eq_unknown_or a.name).resolve_left

/-- The routes of a method come from its mapping annotations. -/
theorem exists_mapping_of_isRoute (h : fact ∈ methodFacts controller m)
    (hroute : fact.isRoute = true) :
    ∃ a ∈ m.annotations.filter (·.isMapping), routeFact controller m a = fact := by
  rcases mem_methodFacts_iff.1 h with ⟨a, ha, rfl⟩ | ⟨p, -, a, -, rfl⟩
  · exact ⟨a, List.mem_filter.2 ⟨(List.mem_filter.1 ha).1, isRoute_routeFact.1 hroute⟩, rfl⟩
  · rw [Fact.isRoute_eq, parameterFact, Site.not_allows_kindOf (by decide)] at hroute
    cases hroute

theorem routeFact_mem_methodFacts {a : AnnotationUse}
    (h : a ∈ m.annotations.filter (·.isMapping)) :
    routeFact controller m a ∈ methodFacts controller m := by
  obtain ⟨ha, hmapping⟩ := List.mem_filter.1 h
  refine mem_methodFacts_iff.2 (.inl ⟨a, List.mem_filter.2 ⟨ha, ?_⟩, rfl⟩)
  rw [AnnotationUse.isMapping, Bool.or_eq_true, beq_iff_eq, beq_iff_eq] at hmapping
  rcases hmapping with hname | hname <;> rw [hname] <;> rfl

theorem Java.Method.HasLiteralPath.kind_ne {arguments : Written.PathArguments}
    (hpath : m.HasLiteralPath arguments) (h : fact ∈ methodFacts controller m) :
    fact.kind ≠ .pathVariable := by
  rcases mem_methodFacts_iff.1 h with ⟨a, -, rfl⟩ | ⟨p, hp, a, ha, rfl⟩
  · rw [routeFact_kind]
    rcases Site.method.kindOf_eq_unknown_or a.name with hunknown | hallows
    · rw [hunknown]
      decide
    · rintro heq
      rw [heq] at hallows
      cases hallows
  · exact fun heq ↦
      hpath.noVariables p hp a (List.mem_filter.1 ha).1 (name_eq_of_kindOf_pathVariable heq)

end Facts

section Endpoint

variable {sources : List String} {controller : String} {m : Java.Method}
  {arguments : Written.PathArguments}
  (hdeclared : (controller, m) ∈ sources.flatMap declaredMethods)
  (hunique : ∀ n, (controller, n) ∈ sources.flatMap declaredMethods →
    methodKey controller n = methodKey controller m → n = m)

include hunique in
/-- The facts about the endpoint are those of its method. -/
theorem mem_methodFacts_of_mem_endpointFacts {fact : Fact}
    (h : fact ∈ endpointFacts controller (methodKey controller m) (sources.flatMap scan)) :
    fact ∈ methodFacts controller m := by
  obtain ⟨n, hn, hkey, hfact⟩ := exists_declaredMethod_of_mem_endpointFacts h
  exact hunique n hn hkey ▸ hfact

include hdeclared in
theorem routeFact_mem_endpointFacts {a : AnnotationUse}
    (ha : a ∈ m.annotations.filter (·.isMapping)) :
    routeFact controller m a ∈
      endpointFacts controller (methodKey controller m) (sources.flatMap scan) := by
  have hmem : routeFact controller m a ∈ methodFacts controller m := routeFact_mem_methodFacts ha
  obtain ⟨hcontroller, hkey⟩ := key_of_mem_methodFacts hmem
  refine mem_endpointFacts.2 ⟨mem_scan_of_mem_declaredMethods hdeclared hmem, hcontroller, ?_⟩
  rw [Fact.endpointKey?_of_isRoute (isRoute_routeFact.2 (List.mem_filter.1 ha).2), hkey]

include hunique in
/-- The routes of the endpoint come from the mapping annotations of the method. -/
theorem exists_mapping_of_mem_endpointFacts {fact : Fact}
    (h : fact ∈ (endpointFacts controller (methodKey controller m) (sources.flatMap scan)).filter
      Fact.isRoute) :
    ∃ a ∈ m.annotations.filter (·.isMapping), routeFact controller m a = fact :=
  have hmem := List.mem_filter.1 h
  exists_mapping_of_isRoute (mem_methodFacts_of_mem_endpointFacts hunique hmem.1) hmem.2

include hdeclared hunique

/-- A value that each of the mapping annotations gives is the last one given. -/
theorem lastSome_routes {α : Type} {f : Fact → Option α} {value : α} {a : AnnotationUse}
    (ha : a ∈ m.annotations.filter (·.isMapping))
    (hvalue : ∀ b ∈ m.annotations.filter (·.isMapping),
      f (routeFact controller m b) = some value) :
    lastSome f ((endpointFacts controller (methodKey controller m)
      (sources.flatMap scan)).filter Fact.isRoute) = some value := by
  have hroute := List.mem_filter.2 ⟨routeFact_mem_endpointFacts hdeclared ha,
    isRoute_routeFact.2 (List.mem_filter.1 ha).2⟩
  refine lastSome_eq_of_forall (List.ne_nil_of_mem hroute) fun fact hmem ↦ ?_
  obtain ⟨b, hb, rfl⟩ := exists_mapping_of_mem_endpointFacts hunique hmem
  exact hvalue b hb

/-- A mapping annotation gives the endpoint of its method an HTTP method and a name. -/
theorem summary_of_mapping {a : AnnotationUse} (ha : a ∈ m.annotations.filter (·.isMapping)) :
    let raw := Resource.summary
      (endpointFacts controller (methodKey controller m) (sources.flatMap scan))
    (Model.summary (sources.flatMap scan)).resource? controller (methodKey controller m) = some raw ∧
      raw.httpMethod ≠ none ∧ raw.methodName ≠ none := by
  intro raw
  have hfact := routeFact_mem_endpointFacts hdeclared ha
  have hisRoute : (routeFact controller m a).isRoute = true :=
    isRoute_routeFact.2 (List.mem_filter.1 ha).2
  refine ⟨Model.resource?_summary.2 ⟨List.ne_nil_of_mem hfact, rfl⟩, ?_, ?_⟩
  · intro hnone
    have hmethod := lastSome_eq_none_iff.1 hnone _ (List.mem_filter.2 ⟨hfact, hisRoute⟩)
    rw [Fact.isRoute, hmethod] at hisRoute
    cases hisRoute
  · have hname : raw.methodName = some (Text.capitalize m.name) := by
      refine lastSome_routes hdeclared hunique ha fun b hb ↦ ?_
      rw [Fact.capitalizedName?_eq, routeFact_eq (List.mem_filter.1 hb).2]
      rfl
    exact ne_of_eq_of_ne hname (Option.some_ne_none _)

/-- The endpoint of the method is mapped, and the content of the literal is its template. -/
theorem exists_resource_of_hasLiteralPath (hpath : m.HasLiteralPath arguments)
    (order : VariableOrder) :
    ∃ resource, (roundModel order (sources.flatMap scan)).resource? controller
        (methodKey controller m) = some resource ∧
      resource.template = some (.ofList arguments.path.content) ∧ resource.httpMethod ≠ none ∧
      resource.methodName ≠ none := by
  obtain ⟨a, hannotations, harguments⟩ := hpath.mapping
  have ha : a ∈ m.annotations.filter (·.isMapping) := by
    rw [hannotations]
    exact List.mem_singleton_self a
  obtain ⟨hraw, hmapped⟩ := summary_of_mapping hdeclared hunique ha
  -- normalizing leaves the template as it is, as there is no variable to look for
  have hvariables : (Resource.summary (endpointFacts controller (methodKey controller m)
      (sources.flatMap scan))).pathVariables.isEmpty = true := by
    refine Registry.isEmpty_of_get?_eq_none fun name ↦
      Option.eq_none_iff_forall_ne_some.2 fun v hv ↦ ?_
    obtain ⟨fact, hmem, hkind, -, -⟩ := exists_fact_of_get?_parameters hv
    exact hpath.kind_ne (mem_methodFacts_of_mem_endpointFacts hunique hmem) hkind
  refine ⟨_, resource?_roundModel.2 ⟨_, hraw, Resource.normalize_eq_self (.inr hvariables) order⟩,
    ?_, hmapped⟩
  refine lastSome_routes hdeclared hunique ha fun b hb ↦ ?_
  rw [hannotations, List.mem_singleton] at hb
  subst hb
  rw [Fact.template?_eq, routeFact_eq (List.mem_filter.1 ha).2, harguments]
  exact Written.PathArguments.selectTemplate_text

end Endpoint

/-- The endpoint of a method whose mapping annotation holds a single literal: the base class
declares its constant with the escaped content of the literal, which denotes the same string if and
only if the content has no escape. -/
theorem literalPath_declared {sources : List String} {controller : String} {m : Java.Method}
    {arguments : Written.PathArguments} {string : List Nat} (order : VariableOrder)
    (suffixes : Suffixes)
    (hdeclared : (controller, m) ∈ sources.flatMap declaredMethods)
    (hunique : ∀ n, (controller, n) ∈ sources.flatMap declaredMethods →
      methodKey controller n = methodKey controller m → n = m)
    (hpath : m.HasLiteralPath arguments)
    (hlegal : literalValue? arguments.path.content = some string) :
    ∃ c endpoint basePath baseLines content,
      (roundModel order (sources.flatMap scan)).controller? controller = some c ∧
      c.resources.get? (methodKey controller m) = some endpoint.resource ∧
      endpoint ∈ c.stubEndpoints ∧
      Model.baseFile suffixes controller c = (basePath, fileText baseLines) ∧
      (endpoint.constant, content) ∈ baseLines.filterMap declaredConstant? ∧
      content = escape arguments.path.content ∧
      (literalValue? content = some string ↔ '\\' ∉ arguments.path.content) := by
  obtain ⟨resource, hresource, htemplate, hmethod, hname⟩ :=
    exists_resource_of_hasLiteralPath hdeclared hunique hpath order
  obtain ⟨c, hcontroller, hget⟩ := Option.bind_eq_some_iff.1 hresource
  have hentry : (methodKey controller m, resource) ∈ c.orderedEndpoints :=
    List.mem_mergeSort.2 (Registry.get?_eq_some_iff.1 hget)
  obtain ⟨endpoint, hendpoint, rfl⟩ :=
    Controller.exists_mem_numberEndpoints hentry hmethod hname []
  let names := controllerName controller c.packageName
  refine ⟨c, endpoint, classFile names.1 (names.2 ++ suffixes.base),
    c.baseLines suffixes names.1 names.2, escape arguments.path.content, hcontroller, hget,
    hendpoint, rfl, ?_, rfl, ?_⟩
  · rw [Controller.filterMap_declaredConstant? (isNameChar_of_mem_constant hcontroller)]
    refine List.mem_map.2 ⟨endpoint, hendpoint, ?_⟩
    rw [htemplate, Option.getD_some, String.toList_ofList]
  · rw [← hlegal]
    exact literalValue?_escape_eq_iff hlegal

/-- A path in braces, given by its name, and another argument. -/
theorem literalPath_declared_braces :
    let sources := ["@RestController class A \x7b
      @GetMapping(path = \x7b \"/a\" \x7d, produces = JSON) String f(@RequestParam int n) \x7b \x7d \x7d"]
    let space : Written.Gap := ⟨[' '], List.all_eq_true.1 rfl⟩
    let arguments : Written.PathArguments :=
      { before := []
        path :=
          { lead := ⟨[], List.all_eq_true.1 rfl⟩
            name := some (⟨['p', 'a', 't', 'h'], by decide, List.all_eq_true.1 rfl⟩, space, space)
            known := by decide
            braces := some (space, space)
            content := ['/', 'a']
            closes := by decide
            oneLine := by decide
            trail := ⟨[], List.all_eq_true.1 rfl⟩ }
        after :=
          [{  lead := space
              name := ⟨['p', 'r', 'o', 'd', 'u', 'c', 'e', 's'], by decide, List.all_eq_true.1 rfl⟩
              gap := space
              expression := [' ', 'J', 'S', 'O', 'N']
              noQuote := by simp [isQuote]
              noSplit := by decide
              levels_eq := by decide }]
        distinct := by decide }
    let m : Java.Method :=
      { annotations := [⟨"GetMapping", some arguments.text⟩], returnType := "String", name := "f"
        parameters := [⟨[⟨"RequestParam", none⟩], "int", "n"⟩] }
    sources.flatMap declaredMethods = [("A", m)] ∧ m.HasLiteralPath arguments ∧
      literalValue? ['/', 'a'] = some [47, 97] ∧
      ∃ c endpoint basePath baseLines content,
        (roundModel .textual (sources.flatMap scan)).controller? "A" = some c ∧
        endpoint ∈ c.stubEndpoints ∧
        Model.baseFile {} "A" c = (basePath, fileText baseLines) ∧
        (endpoint.constant, content) ∈ baseLines.filterMap declaredConstant? ∧
        literalValue? content = some [47, 97] := by
  intro sources space arguments m
  have hmethods : sources.flatMap declaredMethods = [("A", m)] := by decide +kernel
  have hpath : m.HasLiteralPath arguments :=
    ⟨⟨⟨"GetMapping", some arguments.text⟩, by decide +kernel, rfl⟩, by decide⟩
  have hlegal : literalValue? arguments.path.content = some [47, 97] := by decide +kernel
  have hdeclared : ("A", m) ∈ sources.flatMap declaredMethods := by
    rw [hmethods]
    exact List.mem_singleton_self _
  have hunique : ∀ n, ("A", n) ∈ sources.flatMap declaredMethods →
      methodKey "A" n = methodKey "A" m → n = m := by
    intro n hn _
    rw [hmethods, List.mem_singleton] at hn
    exact congrArg Prod.snd hn
  obtain ⟨c, endpoint, basePath, baseLines, content, hcontroller, -, hendpoint, hbase, hmem, -,
    hiff⟩ := literalPath_declared .textual {} hdeclared hunique hpath hlegal
  exact ⟨hmethods, hpath, hlegal, c, endpoint, basePath, baseLines, content, hcontroller, hendpoint,
    hbase, hmem, hiff.2 (by decide)⟩

/-- An escaped quote is escaped again, so that the declared constant has a backslash too many. -/
theorem literalPath_escaped_again :
    let sources := ["@RestController class A \x7b
      @GetMapping(\"/a\\\"b\") String f() \x7b return null; \x7d \x7d"]
    let content := ['/', 'a', '\\', '"', 'b']
    let controller : Controller :=
      { packageName := some ""
        resources := .ofList [("A.f()",
          { methodName := some "F", httpMethod := some .get, template := some (.ofList content)
            responseType := some "String" })] }
    sources.flatMap declaredMethods =
        [("A", ⟨[⟨"GetMapping", some ('"' :: (content ++ ['"']))⟩], "String", "f", []⟩)] ∧
      (roundModel .textual (sources.flatMap scan)).controller? "A" = some controller ∧
      (Model.baseFile {} "A" controller).2 = fileText (controller.baseLines {} "" "A") ∧
      (controller.baseLines {} "" "A").filterMap declaredConstant? = [("F_URL", escape content)] ∧
      literalValue? content = some (['/', 'a', '"', 'b'].map Char.toNat) ∧
      literalValue? (escape content) = some (content.map Char.toNat) := by
  intro sources content controller
  have hcontroller : (roundModel .textual (sources.flatMap scan)).controller? "A" =
      some controller := by
    decide +kernel
  have hordered : controller.orderedEndpoints = controller.resources.entries :=
    List.mergeSort_of_pairwise (by decide +kernel)
  have hname : controllerName "A" controller.packageName = ("", "A") := by decide +kernel
  refine ⟨by decide +kernel, hcontroller, ?_, ?_, by decide +kernel, by decide +kernel⟩
  · rw [Model.baseFile, hname]
    rfl
  · rw [Controller.filterMap_declaredConstant? (isNameChar_of_mem_constant hcontroller),
      Controller.stubEndpoints, hordered]
    decide +kernel

end EndpointStubs
