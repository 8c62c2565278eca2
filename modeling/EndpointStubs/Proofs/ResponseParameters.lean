import EndpointStubs.Proofs.ResponseTypes
import EndpointStubs.Proofs.StubParameters
import EndpointStubs.Proofs.TypeParameters

/-!
# The parameters for responses

The type of the parameter for the response of a stub method, for every return
type that a method of a source may be declared with. A void type gives no
parameter; a `ResponseEntity`, by its simple or a qualified name, gives its type
argument, or `Object` if that is not known; any other type is taken as it is.
Only the bound of a wildcard is not taken out of the wildcard, so that the
parameter then has no type of the language.
-/

namespace EndpointStubs

open Java

section Endpoint

variable {sources : List String} {controller : String} {m : Java.Method}
  (hdeclared : (controller, m) ∈ sources.flatMap declaredMethods)
  (hunique : ∀ n, (controller, n) ∈ sources.flatMap declaredMethods →
    methodKey controller n = methodKey controller m → n = m)

include hdeclared hunique

/-- The endpoint of a method with a mapping annotation is mapped, and its response type is the
return type of the method. -/
theorem exists_resource_of_mapping (hmapping : ∃ a ∈ m.annotations, a.isMapping = true)
    (order : VariableOrder) :
    ∃ resource, (roundModel order (sources.flatMap scan)).resource? controller
        (methodKey controller m) = some resource ∧
      resource.responseType = some (cleanType m.returnType) ∧ resource.httpMethod ≠ none ∧
      resource.methodName ≠ none := by
  obtain ⟨a, huse, hmapping⟩ := hmapping
  have ha : a ∈ m.annotations.filter (·.isMapping) := List.mem_filter.2 ⟨huse, hmapping⟩
  obtain ⟨hraw, hmethod, hname⟩ := summary_of_mapping hdeclared hunique ha
  refine ⟨_, resource?_roundModel.2 ⟨_, hraw, rfl⟩, ?_, ?_, ?_⟩
  · rw [Resource.responseType_normalize]
    refine lastSome_routes hdeclared hunique ha fun b hb ↦ ?_
    rw [Fact.ungroupedType?_eq, routeFact_eq (List.mem_filter.1 hb).2]
    rfl
  · rwa [Resource.httpMethod_normalize]
  · rwa [Resource.methodName_normalize]

end Endpoint

namespace Java.Written

theorem ReturnType.exists_tokens_cons (returnType : ReturnType) :
    ∃ chars ts, returnType.tokens = .word chars :: ts := by
  cases returnType with
  | void => exact ⟨_, _, rfl⟩
  | value type => exact type.exists_tokens_cons

/-- What is neither blank nor part of a word does not stand before a return type. -/
theorem head?_spell_ne {returnType : ReturnType} {pieces : List (Gap × TypeToken)}
    (h : IsSpelling returnType.tokens pieces) {c : Char} (hblank : Text.isBlank c = false)
    (hword : Text.isWord c = false) : (spell pieces).head? ≠ some c := by
  obtain ⟨chars, ts, htokens⟩ := returnType.exists_tokens_cons
  obtain ⟨⟨gap, t⟩, rest, rfl, rfl, -⟩ := List.map_eq_cons_iff.1 (h.tokens.trans htokens)
  have hproper := h.isProper returnType.isProper_tokens _ List.mem_cons_self
  obtain ⟨d, ds, rfl⟩ := List.exists_cons_of_ne_nil hproper.1
  have hfirst : (d == c) = false := by
    rw [beq_eq_false_iff_ne]
    rintro rfl
    rw [hproper.2 d List.mem_cons_self] at hword
    cases hword
  have hblanks (b : Char) (hb : Text.isBlank b = true) : (b == c) = false := by
    rw [beq_eq_false_iff_ne]
    rintro rfl
    rw [hb] at hblank
    cases hblank
  have hstop := gap.head_eq_false (p := (· == c)) hblanks d hfirst (ds ++ spell rest)
  intro hc
  rw [spell, List.flatMap_cons, List.append_assoc] at hc
  have hself := hstop c hc
  rw [beq_self_eq_true] at hself
  cases hself

namespace MethodForm

/-- The return type as it is written, alone or behind type parameters whose bounds have no type
arguments. -/
def Returns (method : MethodForm) (written : List Char) : Prop :=
  method.head = written ∨
    ∃ m p, method = withTypeParameters m p ∧ '>' ∉ p.inside ∧ m.head = written

theorem methodHead?_of_returns {method : MethodForm} {returnType : ReturnType}
    {pieces : List (Gap × TypeToken)} (h : IsSpelling returnType.tokens pieces)
    (hreturns : method.Returns (spell pieces)) (hgap : method.gap.chars ≠ []) :
    methodHead? (flatten method.declaration) = some
      ⟨.ofList (Text.compact (spell pieces)), method.name.text, flatten method.list⟩ := by
  rcases hreturns with hhead | ⟨m, p, rfl, hbounds, hhead⟩
  · have hsection := head?_spell_ne h (c := '<') (by decide) (by decide)
    rw [← hhead] at hsection ⊢
    exact methodHead?_of_no_section hsection hgap
  · have hgap : m.gap.chars ≠ [] := hgap
    rw [methodHead?_withTypeParameters hgap, TypeParameters.rest_of_not_mem hbounds,
      ← Text.compact_trimStart, Text.trimStart_append_stop p.gap.blank m.isBlank_head, hhead]
    rfl

end MethodForm

/-- The parameter for the response of a declared method, anywhere in the types of a source: it is
what it shall be if and only if the return type is recognised. -/
theorem response_of_declared_type {sources : List String} (u : CompilationUnit)
    (layout : Layout u.lexemes) (hsource : .ofList layout.text ∈ sources) {x : PlacedMethod}
    (hx : x ∈ u.methods) (hseparated : Formal.Separated x.method.formals)
    (hmapping : ∃ a ∈ x.method.front.annotations, a.isMapping = true)
    {returnType : ReturnType} {pieces : List (Gap × TypeToken)}
    (hspelled : IsSpelling returnType.tokens pieces) (hreturns : x.method.Returns (spell pieces))
    (hlegal : returnType.HasLegalEntity) (hgap : x.method.gap.chars ≠ [])
    (hunique : ∀ m ∈ x.method.read?, ∀ n,
      ((x.declaringType u.packageName).qualifiedName, n) ∈ sources.flatMap declaredMethods →
      methodKey (x.declaringType u.packageName).qualifiedName n =
        methodKey (x.declaringType u.packageName).qualifiedName m → n = m)
    (order : VariableOrder) :
    ∃ m ∈ x.method.read?, ∃ c,
      (roundModel order (sources.flatMap scan)).controller?
        (x.declaringType u.packageName).qualifiedName = some c ∧
      ∃ endpoint ∈ c.stubEndpoints,
        c.resources.get? (methodKey (x.declaringType u.packageName).qualifiedName m) =
          some endpoint.resource ∧
        endpoint.methodLines = .ok endpoint.stubMethod.lines ∧
        (∀ parameter ∈ endpoint.stubMethod.responseParameter, parameter.name = "response") ∧
        (returnType.HasResponse (spell pieces)
            (endpoint.stubMethod.responseParameter.map StubParameter.type) ↔
          returnType.IsRecognised pieces) := by
  let controller := (x.declaringType u.packageName).qualifiedName
  let m : Java.Method := ⟨x.method.front.annotations, .ofList (Text.compact (spell pieces)),
    x.method.name.text, x.method.formals.filterMap Formal.read?⟩
  have hread : x.method.read? = some m := by
    rw [MethodForm.read?, MethodForm.methodHead?_of_returns hspelled hreturns hgap]
    rfl
  have hdeclared : (controller, m) ∈ sources.flatMap declaredMethods :=
    List.mem_flatMap.2 ⟨_, hsource, CompilationUnit.mem_declaredMethods hx layout hseparated hread⟩
  obtain ⟨resource, hresource, hresponse, hmethod, hname⟩ :=
    exists_resource_of_mapping hdeclared (hunique m hread) hmapping order
  obtain ⟨c, hcontroller, hget⟩ := Option.bind_eq_some_iff.1 hresource
  have hentry : (methodKey controller m, resource) ∈ c.orderedEndpoints :=
    List.mem_mergeSort.2 (Registry.get?_eq_some_iff.1 hget)
  obtain ⟨endpoint, hendpoint, rfl⟩ :=
    Controller.exists_mem_numberEndpoints hentry hmethod hname []
  have htype : endpoint.stubMethod.responseParameter.map StubParameter.type =
      writtenResponse (spell pieces) := by
    rw [StubEndpoint.stubMethod, Option.map_map, hresponse]
    exact Option.map_id_apply
  refine ⟨m, hread, c, hcontroller, endpoint, hendpoint, hget, ?_, ?_, ?_⟩
  · have hrenderable := (hasNamedParameters_scan sources).renderable hresource
    exact endpoint.methodLines_eq_stubMethod hrenderable
  · intro parameter hparameter
    obtain ⟨type, -, rfl⟩ := Option.map_eq_some_iff.1 hparameter
    rfl
  · rw [htype]
    exact ReturnType.hasResponse_iff hspelled hlegal

namespace Sample

def typeName (name : String) (hne : name.toList ≠ []) (hword : name.toList.all Text.isWord = true)
    (hreserved : String.ofList name.toList ∉ reservedWords)
    (hdigit : name.toList.head?.any Char.isDigit = false) : TypeName :=
  ⟨identifier name hne hword, hreserved, hdigit⟩

def entity : TypeNames :=
  ⟨[], typeName "ResponseEntity" (by decide) rfl (by decide +kernel) rfl⟩

/-- `List<?>` -/
def anyList : ReferenceType :=
  .generic ⟨[], typeName "List" (by decide) rfl (by decide +kernel) rfl⟩ (.last .wildcard) .nil

def entityOf (argument : TypeArgument) : ReturnType :=
  .value (.reference (.generic entity (.last argument) .nil))

/-- `ResponseEntity< List<?> >` -/
def entityPieces : List (Gap × TypeToken) :=
  [(noGap, entity.last.token), (noGap, .mark '<'), (space, word "List"), (noGap, .mark '<'),
    (noGap, .mark '?'), (noGap, .mark '>'), (space, .mark '>')]

def entityMethod : PlacedMethod :=
  ⟨["A"], { overload "\"/a\"".toList [] with
    head := "ResponseEntity< List<?> >".toList
    starts := by decide
    notType := by decide
    ends := ⟨'>', rfl, by decide, fun hgap ↦ absurd hgap (by decide)⟩
    head_unbracketed := by decide
    noAssignment := by decide
    section_closed := fun hsection ↦ absurd hsection (by decide) }⟩

def entityUnit : CompilationUnit where
  declarations := [.type ⟨(controller []).head, none⟩ [.method entityMethod.method]
    ⟨[], balanced_nil⟩]
  trail := ⟨[], balanced_nil⟩

def entityLayout : Layout entityUnit.lexemes where
  passages := passages ("@RestController class A \x7b @PostMapping(\"/a\") " ++
    "ResponseEntity< List<?> > find();\x7d").toList
  apart := by decide +kernel
  lexemes_eq := by decide +kernel

end Sample

/-- The argument is taken without the blanks around it. -/
theorem response_of_entity :
    ∃ c, (roundModel .textual (scan (.ofList Sample.entityLayout.text))).controller? "A" = some c ∧
      ∃ endpoint ∈ c.stubEndpoints, c.resources.get? "A.find()" = some endpoint.resource ∧
        endpoint.methodLines = .ok endpoint.stubMethod.lines ∧
        (Sample.entityOf (.exact Sample.anyList)).HasResponse "ResponseEntity< List<?> >".toList
          (endpoint.stubMethod.responseParameter.map StubParameter.type) := by
  let m : Java.Method :=
    { annotations := [⟨"PostMapping", some "\"/a\"".toList⟩], name := "find", parameters := []
      returnType := "ResponseEntity< List<?> >" }
  have hread : Sample.entityMethod.method.read? = some m := by decide +kernel
  have hname : (Sample.entityMethod.declaringType Sample.entityUnit.packageName).qualifiedName =
      "A" := by
    decide +kernel
  have hmethods : [String.ofList Sample.entityLayout.text].flatMap declaredMethods =
      [("A", m)] := by
    decide +kernel
  have hmem : Sample.entityMethod ∈ Sample.entityUnit.methods := by
    have hmethods : Sample.entityUnit.methods = [Sample.entityMethod] := rfl
    rw [hmethods]
    exact List.mem_cons_self
  have hspelled : IsSpelling (Sample.entityOf (.exact Sample.anyList)).tokens Sample.entityPieces :=
    ⟨rfl, by decide⟩
  have hreturns : Sample.entityMethod.method.Returns (spell Sample.entityPieces) := .inl (by decide)
  have hlegal : (Sample.entityOf (.exact Sample.anyList)).HasLegalEntity := by
    rintro _ _ _ ⟨⟩ _
    exact ⟨_, rfl, rfl⟩
  have hrecognised : (Sample.entityOf (.exact Sample.anyList)).IsRecognised Sample.entityPieces :=
    ⟨by decide, fun _ ↦ by decide⟩
  obtain ⟨m', hm', c, hcontroller, endpoint, hendpoint, hget, hlines, -, hiff⟩ :=
    response_of_declared_type Sample.entityUnit Sample.entityLayout (List.mem_singleton_self _) hmem
      (by decide) (by decide) hspelled hreturns hlegal (by decide)
      (fun m' hm' n hn _ ↦ by
        rw [hread] at hm'
        rw [hname, hmethods, List.mem_singleton] at hn
        exact (congrArg Prod.snd hn).trans (Option.some.inj hm')) .textual
  obtain rfl : m = m' := Option.some.inj (hread.symm.trans hm')
  rw [hname] at hcontroller hget
  rw [List.flatMap_singleton] at hcontroller
  have hkey : methodKey "A" m = "A.find()" := by decide +kernel
  rw [hkey] at hget
  exact ⟨c, hcontroller, endpoint, hendpoint, hget, hlines, hiff.2 hrecognised⟩

/-- The bound of a wildcard stays in the wildcard: the parameter has no type of the language. -/
theorem response_of_bounded_wildcard :
    let sources := ["@RestController class A \x7b @GetMapping(\"/a\") " ++
      "ResponseEntity<? extends Foo> f() \x7b return null; \x7d \x7d"]
    let method : StubMethod :=
      { name := "F", verb := "get", constant := "F_URL", requestParameters := []
        responseParameter := some ⟨"? extends Foo", "response"⟩, formatArguments := []
        queryValues := [], bodyObject := none, responseObject := some "response" }
    (∃ controller,
        (roundModel .textual (sources.flatMap scan)).controller? "A" = some controller ∧
        controller.stubEndpoints.map StubEndpoint.methodLines = [.ok method.lines]) ∧
      method.signature = "    public void F(final ? extends Foo response) \x7b" ∧
      ¬∃ type : JavaType, type.IsSpelledAs "? extends Foo" := by
  intro sources method
  let resource : Resource :=
    { methodName := some "F", httpMethod := some .get, template := some "/a"
      responseType := some "ResponseEntity<? extends Foo>" }
  let controller : Controller :=
    { packageName := some "", resources := .ofList [("A.f()", resource)] }
  have hcontroller : (roundModel .textual (sources.flatMap scan)).controller? "A" =
      some controller := by
    decide +kernel
  have hordered : controller.orderedEndpoints = controller.resources.entries :=
    List.mergeSort_of_pairwise (by decide +kernel)
  have harguments : resource.orderedArguments = resource.arguments.entries :=
    List.mergeSort_of_pairwise (by decide +kernel)
  have hendpoints : controller.stubEndpoints = [⟨"F", .get, resource⟩] := by
    rw [Controller.stubEndpoints, hordered]
    decide +kernel
  have hmethod : StubEndpoint.stubMethod ⟨"F", .get, resource⟩ = method := by
    simp only [StubEndpoint.stubMethod, harguments]
    decide +kernel
  have hrenderable : resource.Renderable :=
    ⟨fun _ hname ↦ absurd hname List.not_mem_nil, by decide +kernel⟩
  refine ⟨⟨controller, hcontroller, ?_⟩, by decide +kernel, ?_⟩
  · rw [hendpoints, List.map_singleton, ← hmethod]
    exact congrArg (fun lines ↦ [lines]) (StubEndpoint.methodLines_eq_stubMethod _ hrenderable)
  · rintro ⟨type, hspelled⟩
    let pieces : List (Gap × TypeToken) :=
      [(Sample.noGap, .mark '?'), (Sample.space, keywordToken "extends"),
        (Sample.space, Sample.word "Foo")]
    obtain ⟨chars, ts, htokens⟩ := type.exists_tokens_cons
    have hsame : type.tokens = pieces.map Prod.snd :=
      JavaType.tokens_eq_of_isSpelledAs (by decide) (by decide) hspelled
    rw [htokens] at hsame
    cases hsame

end Java.Written

end EndpointStubs
