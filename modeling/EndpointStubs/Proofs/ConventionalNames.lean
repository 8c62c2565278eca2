import EndpointStubs.Proofs.ClassFiles
import EndpointStubs.Proofs.RepeatedFacts

/-!
# Conventional names

The package of a controller is reported by the fact about the controller itself.
For a controller that is known by its endpoints alone the package is told from
the qualified name. If the names follow the conventions, both ways agree: the
segments of a package start with a lower case letter and the names of types do
not. The fact about the controller then adds nothing to the classes but imports.
-/

namespace EndpointStubs

/-- Each segment of the package starts with a lower case letter. Of the types, from the outermost one
to the controller itself, each has a name without a dot that starts otherwise. -/
structure IsConventionalName (packageName : String) (names : List String) : Prop where
  segments : ∀ segment ∈ packageSegments packageName,
    segment.toList.head?.any Text.isLower = true
  names_ne_nil : names ≠ []
  names : ∀ name ∈ names,
    name ≠ "" ∧ '.' ∉ name.toList ∧ name.toList.head?.any Text.isLower = false

/-- The name of a type within types in a package. -/
def nestedName (packageName : String) (names : List String) : String :=
  Text.joinDots (packageSegments packageName ++ names)

namespace IsConventionalName

variable {packageName : String} {names : List String} (h : IsConventionalName packageName names)

include h

/-- A reported package is cut off. -/
theorem controllerName_reported :
    controllerName (nestedName packageName names) (some packageName) =
      (packageName, String.join names) := by
  have hname := controllerName_joinDots (@packageSegments_eq_nil packageName)
    (fun name hname ↦ (h.names name hname).2.1) h.names_ne_nil
  rwa [joinDots_packageSegments] at hname

/-- A package that was not reported is found. -/
theorem splitControllerName_nestedName :
    splitControllerName (nestedName packageName names) = (packageName, String.join names) := by
  have hdots : ∀ piece ∈ packageSegments packageName ++ names, '.' ∉ piece.toList :=
    List.forall_mem_append.2
      ⟨fun _ ↦ dot_not_mem_packageSegments, fun name hname ↦ (h.names name hname).2.1⟩
  have hname := splitControllerName_joinDots hdots h.segments h.names_ne_nil
    (.inr fun name hname ↦ (h.names name (List.mem_of_head? hname)).2.2)
  rwa [joinDots_packageSegments] at hname

theorem controllerName_eq {reported : Option String}
    (hreported : reported = none ∨ reported = some packageName) :
    controllerName (nestedName packageName names) reported = (packageName, String.join names) := by
  rcases hreported with rfl | rfl
  · exact h.splitControllerName_nestedName
  · exact h.controllerName_reported

end IsConventionalName

namespace Model

variable {key packageName simpleName : String} {controller : Controller}

theorem baseFile_eq (suffixes : Suffixes)
    (h : controllerName key controller.packageName = (packageName, simpleName)) :
    baseFile suffixes key controller =
      (classFile packageName (simpleName ++ suffixes.base),
        fileText (controller.baseLines suffixes packageName simpleName)) := by
  rw [baseFile, h]
  rfl

theorem stubFile_eq (suffixes : Suffixes)
    (h : controllerName key controller.packageName = (packageName, simpleName)) :
    stubFile suffixes key controller =
      (controller.stubEndpoints.mapM StubEndpoint.methodLines).map fun methods ↦
        (classFile packageName (simpleName ++ suffixes.stub),
          fileText (controller.stubHead suffixes packageName simpleName ++
            methods.flatMap ("" :: ·) ++ ["\x7d"])) := by
  rw [stubFile, h]
  unfold Controller.stubText
  cases controller.stubEndpoints.mapM StubEndpoint.methodLines <;> rfl

end Model

theorem filter_controller_eq_nil {facts : List Fact}
    (h : ∀ fact ∈ facts, fact.kind ≠ .controller) : facts.filter (·.kind = .controller) = [] :=
  List.filter_eq_nil_iff.2 fun fact hfact ↦ by simpa using h fact hfact

/-- Without a fact about the controller its package is not known, nor are its imports. -/
theorem Controller.summary_of_endpoints {facts : List Fact}
    (h : ∀ fact ∈ facts, fact.kind ≠ .controller) :
    (Controller.summary facts).packageName = none ∧ (Controller.summary facts).imports = [] := by
  simp only [Controller.summary, filter_controller_eq_nil h]
  exact ⟨rfl, rfl⟩

/-- To facts about its endpoints, the fact about a controller adds the package and the imports. -/
theorem Controller.summary_append_cons {xs ys : List Fact} {declaration : Fact}
    (hkind : declaration.kind = .controller)
    (hothers : ∀ fact ∈ xs ++ ys, fact.kind ≠ .controller) :
    Controller.summary (xs ++ declaration :: ys) =
      { Controller.summary (xs ++ ys) with
        packageName := declaration.packageName
        imports := declaration.imports.eraseDups } := by
  obtain ⟨hxs, hys⟩ := List.forall_mem_append.1 hothers
  have hown : (xs ++ declaration :: ys).filter (·.kind = .controller) = [declaration] := by
    rw [List.filter_append, List.filter_cons_of_pos (by simpa using hkind),
      filter_controller_eq_nil hxs, filter_controller_eq_nil hys, List.nil_append]
  have hkey : declaration.endpointKey? = none := Fact.endpointKey?_eq_none hkind
  have hresources : Registry.grouped Fact.endpointKey? Resource.summary (xs ++ declaration :: ys) =
      Registry.grouped Fact.endpointKey? Resource.summary (xs ++ ys) := by
    refine Registry.grouped_eq ?_ fun key ↦ ?_
    · rw [List.filterMap_append, List.filterMap_cons_none hkey, ← List.filterMap_append]
    · rw [List.filter_append, List.filter_cons_of_neg (by simp [hkey]), ← List.filter_append]
  have hpackage : lastSome Fact.packageName [declaration] = declaration.packageName := by
    cases hreported : declaration.packageName <;> simp [lastSome, hreported]
  simp only [Controller.summary, hown, hresources, hpackage, List.flatMap_singleton]

/-- In a round the fact about a controller adds the package and the imports to a controller that is
known by its endpoints. -/
theorem exists_controller?_roundModel {order : VariableOrder} {earlier later : List Fact}
    {declaration : Fact} {inferred : Controller} (hkind : declaration.kind = .controller)
    (hothers : ∀ fact ∈ earlier ++ later, fact.kind = .controller →
      fact.controller ≠ declaration.controller)
    (hinferred : (roundModel order (earlier ++ later)).controller? declaration.controller =
      some inferred) :
    inferred.packageName = none ∧ inferred.imports = [] ∧
      (roundModel order (earlier ++ declaration :: later)).controller? declaration.controller =
        some { inferred with
          packageName := declaration.packageName
          imports := declaration.imports.eraseDups } := by
  have happend : controllerFacts declaration.controller (earlier ++ later) =
      controllerFacts declaration.controller earlier ++
        controllerFacts declaration.controller later :=
    List.filter_append _ _
  have hfacts : ∀ fact ∈ controllerFacts declaration.controller (earlier ++ later),
      fact.kind ≠ .controller := by
    intro fact hfact hfactKind
    obtain ⟨hmem, hcontroller⟩ := mem_controllerFacts hfact
    exact hothers fact hmem hfactKind hcontroller
  have hcontributes := Fact.contributesTo?_of_kind hkind
  have hdeclared : controllerFacts declaration.controller (earlier ++ declaration :: later) =
      controllerFacts declaration.controller earlier ++ declaration ::
        controllerFacts declaration.controller later := by
    rw [controllerFacts, List.filter_append, List.filter_cons_of_pos (by simpa using hcontributes)]
    rfl
  obtain ⟨-, rfl⟩ := controller?_roundModel_eq_some_iff.1 hinferred
  obtain ⟨hpackage, himports⟩ := Controller.summary_of_endpoints hfacts
  refine ⟨hpackage, himports, controller?_roundModel_eq_some_iff.2 ⟨?_, ?_⟩⟩
  · rw [hdeclared]
    exact List.append_ne_nil_of_right_ne_nil _ (List.cons_ne_nil _ _)
  · rw [happend] at hfacts
    rw [hdeclared, Controller.summary_append_cons hkind hfacts, happend]

/-- Where names follow the conventions, the package and the class name that are told from the
qualified name are those that follow from the reported package. So a controller that is known by its
endpoints alone has classes of the same paths, packages and names, with the same text behind the
imports, as it has after a fact about it, wherever this comes among the facts of a round. -/
theorem inferred_package_eq_reported {packageName : String} {names : List String}
    (h : IsConventionalName packageName names) :
    let key := nestedName packageName names
    let className := String.join names
    controllerName key (some packageName) = (packageName, className) ∧
      splitControllerName key = (packageName, className) ∧
      ∀ (order : VariableOrder) (suffixes : Suffixes) (earlier later : List Fact)
        (declaration : Fact) (inferred : Controller),
        declaration.kind = .controller → declaration.controller = key →
        declaration.packageName = some packageName →
        (∀ fact ∈ earlier ++ later, fact.kind = .controller → fact.controller ≠ key) →
        (roundModel order (earlier ++ later)).controller? key = some inferred →
        ∃ declared,
          (roundModel order (earlier ++ declaration :: later)).controller? key = some declared ∧
          ∀ controller ∈ [inferred, declared],
            Model.baseFile suffixes key controller =
              (classFile packageName (className ++ suffixes.base),
                fileText (inferred.baseLines suffixes packageName className)) ∧
            Model.stubFile suffixes key controller =
              (inferred.stubEndpoints.mapM StubEndpoint.methodLines).map fun methods ↦
                (classFile packageName (className ++ suffixes.stub),
                  fileText (controller.stubHead suffixes packageName className ++
                    methods.flatMap ("" :: ·) ++ ["\x7d"])) := by
  intro key className
  refine ⟨h.controllerName_reported, h.splitControllerName_nestedName, ?_⟩
  intro order suffixes earlier later declaration inferred hkind hcontroller hreported hothers
    hinferred
  rw [← hcontroller] at hothers hinferred
  obtain ⟨hpackage, -, hdeclared⟩ := exists_controller?_roundModel hkind hothers hinferred
  rw [hcontroller, hreported] at hdeclared
  refine ⟨_, hdeclared, fun controller hmem ↦ ?_⟩
  rw [List.mem_pair] at hmem
  rcases hmem with rfl | rfl
  · have hname := h.controllerName_eq (.inl hpackage)
    exact ⟨Model.baseFile_eq suffixes hname, Model.stubFile_eq suffixes hname⟩
  · have hname := h.controllerName_eq (.inr rfl)
    -- The classes hold nothing of the controller but its endpoints and, in their head, its imports.
    exact ⟨Model.baseFile_eq suffixes hname, Model.stubFile_eq suffixes hname⟩

/-- Types that are nested in a package whose text their names repeat. -/
theorem inferred_package_eq_reported_nested :
    let route : Fact :=
      { kind := .getRoute, annotationName := "GetMapping", element := "f",
        controller := "com.com.Com._com", methodKey := some "com.com.Com._com.f()",
        methodName := some "f", path := ["/"] }
    let declaration : Fact :=
      { kind := .controller, annotationName := "RestController", element := "com.com.Com._com",
        controller := "com.com.Com._com", packageName := some "com.com", imports := ["p.Q"] }
    controllerName "com.com.Com._com" (some "com.com") = ("com.com", "Com_com") ∧
      splitControllerName "com.com.Com._com" = ("com.com", "Com_com") ∧
      ∃ inferred declared,
        (roundModel .textual [route]).controller? "com.com.Com._com" = some inferred ∧
        (roundModel .textual [declaration, route]).controller? "com.com.Com._com" = some declared ∧
        Model.baseFile {} "com.com.Com._com" declared =
          Model.baseFile {} "com.com.Com._com" inferred := by
  intro route declaration
  have hkey : nestedName "com.com" ["Com", "_com"] = "com.com.Com._com" := by decide +kernel
  have hclass : String.join ["Com", "_com"] = "Com_com" := by decide +kernel
  have hconventional : IsConventionalName "com.com" ["Com", "_com"] :=
    ⟨by decide +kernel, by decide, by decide +kernel⟩
  obtain ⟨hreported, hsplit, hround⟩ := inferred_package_eq_reported hconventional
  rw [hkey, hclass] at hreported hsplit
  rw [hkey] at hround
  have hsome : ((roundModel .textual [route]).controller? "com.com.Com._com").isSome = true := by
    decide +kernel
  obtain ⟨inferred, hinferred⟩ := Option.isSome_iff_exists.1 hsome
  obtain ⟨declared, hdeclared, hclasses⟩ := hround .textual {} [] [route] declaration inferred rfl
    rfl rfl (by decide) hinferred
  refine ⟨hreported, hsplit, inferred, declared, hinferred, hdeclared, ?_⟩
  rw [(hclasses inferred (by simp)).1, (hclasses declared (by simp)).1]

end EndpointStubs
