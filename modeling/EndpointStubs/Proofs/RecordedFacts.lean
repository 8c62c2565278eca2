import EndpointStubs.Proofs.ReportedChanges

/-!
# Recorded facts

A model records a fact if it says what the fact says about its controller, its
endpoint or its parameter. Folding a fact records it and leaves everything else
as it was, for any model, also one that no facts lead to; and a fact that is
recorded already changes nothing and contradicts nothing. So a fact that is
folded again has no effect, and no change is reported. The last two hold of the
fact that was folded last: another fact may come in between and replace what it
said.
-/

namespace EndpointStubs

namespace Registry

variable {κ α : Type} [DecidableEq κ] {key : κ} {before after : Registry κ α}

/-- All entries but the one for the key are as before, in their places. If the key is new, it comes
last. -/
structure SameBut (key : κ) (before after : Registry κ α) : Prop where
  keys : after.keys = before.keys ∨ key ∉ before.keys ∧ after.keys = before.keys ++ [key]
  get?_of_ne : ∀ other, other ≠ key → after.get? other = before.get? other

theorem sameBut_refl (key : κ) (r : Registry κ α) : r.SameBut key r :=
  ⟨.inl rfl, fun _ _ ↦ rfl⟩

theorem sameBut_update (key : κ) (fresh : α) (f : α → α) (r : Registry κ α) :
    r.SameBut key (r.update key fresh f) where
  keys := by
    rw [keys_update]
    split
    · exact .inl rfl
    · rename_i hkey
      exact .inr ⟨hkey, rfl⟩
  get?_of_ne other hother := by
    rw [get?_update, if_neg hother]

/-- Changing an entry to itself changes nothing. -/
theorem update_eq_self {r : Registry κ α} {fresh a : α} {f : α → α} (h : r.get? key = some a)
    (hf : f a = a) : r.update key fresh f = r := by
  have hkey : key ∈ r.keys := by
    rw [mem_keys_iff, h]
    rfl
  refine ext_get? (by rw [keys_update, if_pos hkey]) fun other ↦ ?_
  rw [get?_update]
  split
  · rename_i hother
    rw [hother, h, Option.getD_some, hf]
  · rfl

end Registry

namespace Fact

variable {fact : Fact}

theorem isRoute_of_routeMethod?_eq_some {method : HttpMethod}
    (h : fact.routeMethod? = some method) : fact.isRoute = true := by
  rw [isRoute, h]
  rfl

/-- A fact of unknown kind says nothing, nor does one about no method. -/
theorem contributesTo?_eq_none_of_ignored
    (h : fact.kind = .unknown ∨ fact.kind ≠ .controller ∧ fact.methodKey = none) :
    fact.contributesTo? = none := by
  cases hkind : fact.kind <;> simp_all [contributesTo?, endpointKey?]

end Fact

/-- A value that says nothing new can be left out. -/
theorem orElse_eq_right {α : Type} {x y : Option α} (h : ∀ a, x = some a → y = some a) :
    (x <|> y) = y := by
  cases x with
  | none => rfl
  | some a => exact (h a rfl).symm

theorem fieldChange_eq_nil {α : Type} [DecidableEq α] {key field : String} {shown : α → String}
    {current new : Option α} (h : ∀ a, new = some a → current = some a) :
    fieldChange key field shown current new = [] := by
  by_contra hne
  rw [← ne_eq, fieldChange_ne_nil_iff, orElse_eq_right h] at hne
  exact not_isReplaced_self _ hne

namespace Resource

/-- The endpoint says what the fact says about it. -/
structure Records (fact : Fact) (resource : Resource) : Prop where
  httpMethod : ∀ method, fact.routeMethod? = some method → resource.httpMethod = some method
  template : fact.isRoute = true → ∀ template,
    selectTemplate fact.path fact.value = some template → resource.template = some template
  methodName : fact.isRoute = true → ∀ name,
    fact.methodName.map Text.capitalize = some name → resource.methodName = some name
  responseType : fact.isRoute = true → ∀ type,
    fact.typeText.map cleanType = some type → resource.responseType = some type
  argument : fact.kind = .requestParam → resource.arguments.get? fact.name = some fact.argument
  pathVariable : fact.kind = .pathVariable →
    resource.pathVariables.get? fact.name = some fact.argument
  requestBody : fact.kind = .requestBody → resource.requestBody = some fact.body
  hasPathVariable : fact.kind = .pathVariable ∨ fact.kind = .requestBody →
    resource.hasPathVariable = true

/-- What the fact does not say anything about is as before, and so are all parameters with other
names. -/
structure KeepsOthers (fact : Fact) (before after : Resource) : Prop where
  formatArguments : after.formatArguments = before.formatArguments
  httpMethod : fact.isRoute = false → after.httpMethod = before.httpMethod
  template : (fact.isRoute = true → selectTemplate fact.path fact.value = none) →
    after.template = before.template
  methodName : (fact.isRoute = true → fact.methodName = none) →
    after.methodName = before.methodName
  responseType : (fact.isRoute = true → fact.typeText = none) →
    after.responseType = before.responseType
  arguments : fact.kind ≠ .requestParam → after.arguments = before.arguments
  otherArguments : before.arguments.SameBut fact.name after.arguments
  pathVariables : fact.kind ≠ .pathVariable → after.pathVariables = before.pathVariables
  otherPathVariables : before.pathVariables.SameBut fact.name after.pathVariables
  requestBody : fact.kind ≠ .requestBody → after.requestBody = before.requestBody
  hasPathVariable : fact.kind ≠ .pathVariable → fact.kind ≠ .requestBody →
    after.hasPathVariable = before.hasPathVariable

variable {fact : Fact} {resource : Resource}

theorem keepsOthers_refl (fact : Fact) (resource : Resource) :
    resource.KeepsOthers fact resource where
  formatArguments := rfl
  httpMethod _ := rfl
  template _ := rfl
  methodName _ := rfl
  responseType _ := rfl
  arguments _ := rfl
  otherArguments := Registry.sameBut_refl _ _
  pathVariables _ := rfl
  otherPathVariables := Registry.sameBut_refl _ _
  requestBody _ := rfl
  hasPathVariable _ _ := rfl

/-- A route keeps what it has no value for. -/
theorem keepsOthers_withRoute {method : HttpMethod} (hmethod : fact.routeMethod? = some method)
    (resource : Resource) : resource.KeepsOthers fact (resource.withRoute method fact) := by
  have hroute := Fact.isRoute_of_routeMethod?_eq_some hmethod
  have hrefl := keepsOthers_refl fact resource
  refine { hrefl with
    httpMethod := fun h ↦ absurd hroute (Bool.eq_false_iff.1 h)
    template := fun h ↦ ?_
    methodName := fun h ↦ ?_
    responseType := fun h ↦ ?_ }
  · rw [withRoute, h hroute]
    rfl
  · rw [withRoute, h hroute]
    rfl
  · rw [withRoute, h hroute]
    rfl

/-- Folding a fact changes only what it is about. -/
theorem keepsOthers_afterFact (fact : Fact) (resource : Resource) :
    resource.KeepsOthers fact (resource.afterFact fact) := by
  have hrefl := keepsOthers_refl fact resource
  cases hkind : fact.kind with
  | getRoute | postRoute =>
    simp only [afterFact, hkind]
    refine keepsOthers_withRoute ?_ resource
    rw [Fact.routeMethod?, hkind]
  | requestParam =>
    simp only [afterFact, hkind]
    exact { hrefl with
      arguments := fun h ↦ absurd hkind h
      otherArguments := Registry.sameBut_update _ _ _ _ }
  | pathVariable =>
    simp only [afterFact, hkind]
    exact { hrefl with
      pathVariables := fun h ↦ absurd hkind h
      otherPathVariables := Registry.sameBut_update _ _ _ _
      hasPathVariable := fun h ↦ absurd hkind h }
  | requestBody =>
    simp only [afterFact, hkind]
    exact { hrefl with
      requestBody := fun h ↦ absurd hkind h
      hasPathVariable := fun _ h ↦ absurd hkind h }
  | controller | unknown =>
    simp only [afterFact, hkind]
    exact hrefl

/-- A route is recorded in its endpoint. -/
theorem records_withRoute {method : HttpMethod} (hmethod : fact.routeMethod? = some method)
    (resource : Resource) : (resource.withRoute method fact).Records fact := by
  have hkind : fact.kind ≠ .requestParam ∧ fact.kind ≠ .pathVariable ∧
      fact.kind ≠ .requestBody := by
    refine ⟨?_, ?_, ?_⟩ <;>
      · intro hkind
        rw [Fact.routeMethod?, hkind] at hmethod
        cases hmethod
  refine ⟨fun other hother ↦ ?_, fun _ template htemplate ↦ ?_, fun _ name hname ↦ ?_,
    fun _ type htype ↦ ?_, fun h ↦ absurd h hkind.1, fun h ↦ absurd h hkind.2.1,
    fun h ↦ absurd h hkind.2.2, fun h ↦ (h.elim hkind.2.1 hkind.2.2).elim⟩
  · rw [← hother, hmethod, withRoute]
  · rw [withRoute, htemplate]
    rfl
  · rw [withRoute, hname]
    rfl
  · rw [withRoute, htype]
    rfl

/-- Folding a fact about an endpoint records it there. -/
theorem records_afterFact (fact : Fact) (resource : Resource) :
    (resource.afterFact fact).Records fact := by
  cases hkind : fact.kind with
  | getRoute | postRoute =>
    simp only [afterFact, hkind]
    refine records_withRoute ?_ resource
    rw [Fact.routeMethod?, hkind]
  | _ =>
    constructor <;>
      simp [afterFact, hkind, Fact.isRoute, Fact.routeMethod?, withArgument, withPathVariable,
        withBody, Registry.get?_insert, Fact.argument, Fact.body]

theorem withRoute_of_records {method : HttpMethod} (hmethod : fact.routeMethod? = some method)
    (h : resource.Records fact) : resource.withRoute method fact = resource := by
  have hroute := Fact.isRoute_of_routeMethod?_eq_some hmethod
  rw [withRoute, orElse_eq_right (h.template hroute), orElse_eq_right (h.methodName hroute),
    orElse_eq_right (h.responseType hroute), ← h.httpMethod method hmethod]

/-- A fact that is recorded changes nothing. -/
theorem afterFact_of_records (h : resource.Records fact) : resource.afterFact fact = resource := by
  cases hkind : fact.kind with
  | getRoute | postRoute =>
    simp only [afterFact, hkind]
    refine withRoute_of_records ?_ h
    rw [Fact.routeMethod?, hkind]
  | requestParam =>
    have hinsert : resource.arguments.insert fact.name fact.argument = resource.arguments :=
      Registry.update_eq_self (h.argument hkind) rfl
    simp only [afterFact, hkind]
    rw [withArgument, ← Fact.argument, hinsert]
  | pathVariable =>
    have hinsert : resource.pathVariables.insert fact.name fact.argument =
        resource.pathVariables :=
      Registry.update_eq_self (h.pathVariable hkind) rfl
    simp only [afterFact, hkind]
    rw [withPathVariable, ← Fact.argument, hinsert, ← h.hasPathVariable (.inl hkind)]
  | requestBody =>
    simp only [afterFact, hkind]
    rw [withBody, ← Fact.body, ← h.requestBody hkind, ← h.hasPathVariable (.inr hkind)]
  | controller | unknown => simp only [afterFact, hkind]

theorem routeConflicts_of_records {key : String} {method : HttpMethod}
    (hmethod : fact.routeMethod? = some method) (h : resource.Records fact) :
    resource.routeConflicts key method fact = [] := by
  have hroute := Fact.isRoute_of_routeMethod?_eq_some hmethod
  rw [routeConflicts, fieldChange_eq_nil (h.template hroute),
    fieldChange_eq_nil fun other hother ↦ h.httpMethod other (hmethod.trans hother),
    fieldChange_eq_nil (h.methodName hroute), fieldChange_eq_nil (h.responseType hroute)]
  rfl

theorem typeConflicts_of_get?_eq {key : String} {registry : Registry (Option String) Argument}
    (h : registry.get? fact.name = some fact.argument) : typeConflicts key fact registry = [] := by
  by_contra hne
  rw [← ne_eq, typeConflicts_ne_nil_iff, h] at hne
  exact not_isReplaced_self _ hne

/-- A fact that is recorded contradicts nothing. -/
theorem conflicts_of_records {key : String} (h : resource.Records fact) :
    resource.conflicts key fact = [] := by
  cases hkind : fact.kind with
  | getRoute | postRoute =>
    simp only [conflicts, hkind]
    refine routeConflicts_of_records ?_ h
    rw [Fact.routeMethod?, hkind]
  | requestParam =>
    simp only [conflicts, hkind]
    exact typeConflicts_of_get?_eq (h.argument hkind)
  | pathVariable =>
    simp only [conflicts, hkind]
    exact typeConflicts_of_get?_eq (h.pathVariable hkind)
  | requestBody =>
    simp only [conflicts, hkind]
    by_contra hne
    rw [← ne_eq, bodyConflicts_ne_nil_iff, h.requestBody hkind] at hne
    exact not_isReplaced_self _ hne
  | controller | unknown => simp only [conflicts, hkind]

end Resource

theorem foldl_addNew_of_subset {κ : Type} [DecidableEq κ] {known later : List κ}
    (h : ∀ k ∈ later, k ∈ known) :
    later.foldl (fun known k ↦ if known.contains k then known else known ++ [k]) known = known := by
  induction later with
  | nil => rfl
  | cons first later ih =>
    obtain ⟨hfirst, hlater⟩ := List.forall_mem_cons.1 h
    rw [List.foldl_cons, if_pos (List.contains_iff_mem.2 hfirst)]
    exact ih hlater

namespace Controller

/-- The controller says what the fact says about it or about one of its endpoints. -/
structure Records (fact : Fact) (controller : Controller) : Prop where
  packageName : fact.kind = .controller → ∀ name,
    fact.packageName = some name → controller.packageName = some name
  imports : fact.kind = .controller → ∀ name ∈ fact.imports, name ∈ controller.imports
  resource : ∀ key, fact.endpointKey? = some key →
    ∃ resource, controller.resources.get? key = some resource ∧ resource.Records fact

/-- What the fact does not say anything about is as before, and so are all endpoints but the one
that it is about. Imports are only added. -/
structure KeepsOthers (fact : Fact) (before after : Controller) : Prop where
  packageName : (fact.kind = .controller → fact.packageName = none) →
    after.packageName = before.packageName
  imports : fact.kind ≠ .controller → after.imports = before.imports
  prefix_imports : before.imports <+: after.imports
  resources : fact.endpointKey? = none → after.resources = before.resources
  resource : ∀ key, fact.endpointKey? = some key → before.resources.SameBut key after.resources ∧
    ((before.resources.get? key).getD {}).KeepsOthers fact ((after.resources.get? key).getD {})

variable {fact : Fact} {controller : Controller}

theorem keepsOthers_refl (fact : Fact) (controller : Controller) :
    controller.KeepsOthers fact controller where
  packageName _ := rfl
  imports _ := rfl
  prefix_imports := List.prefix_rfl
  resources _ := rfl
  resource key _ := ⟨Registry.sameBut_refl key _, Resource.keepsOthers_refl fact _⟩

theorem keepsOthers_afterFact (fact : Fact) (controller : Controller) :
    controller.KeepsOthers fact (controller.afterFact fact) := by
  have hrefl := keepsOthers_refl fact controller
  by_cases hkind : fact.kind = .controller
  · simp only [afterFact, hkind]
    refine { hrefl with
      packageName := fun h ↦ ?_
      imports := fun h ↦ absurd hkind h
      prefix_imports := prefix_foldl_addNew _ _ }
    rw [withFact, h hkind]
    rfl
  · cases hkey : fact.endpointKey? with
    | none =>
      rw [afterFact_of_endpointKey?_eq_none hkind hkey]
      exact hrefl
    | some key =>
      rw [afterFact_of_endpointKey?_eq_some hkind hkey]
      refine { hrefl with
        resources := fun h ↦ absurd (hkey.symm.trans h) (Option.some_ne_none key)
        resource := fun other hother ↦ ?_ }
      cases hkey.symm.trans hother
      refine ⟨Registry.sameBut_update _ _ _ _, ?_⟩
      rw [Registry.get?_update, if_pos rfl, Option.getD_some]
      exact Resource.keepsOthers_afterFact fact _

theorem records_afterFact (habout : fact.contributesTo?.isSome) (controller : Controller) :
    (controller.afterFact fact).Records fact := by
  by_cases hkind : fact.kind = .controller
  · simp only [afterFact, hkind]
    refine ⟨fun _ name hname ↦ ?_, fun _ name hname ↦ mem_foldl_addNew.2 (.inr hname),
      fun other hother ↦ ?_⟩
    · rw [withFact, hname]
      rfl
    · rw [Fact.endpointKey?_eq_none hkind] at hother
      cases hother
  · cases hkey : fact.endpointKey? with
    | none =>
      rw [Fact.contributesTo?_eq_none hkind hkey] at habout
      cases habout
    | some key =>
      rw [afterFact_of_endpointKey?_eq_some hkind hkey]
      refine ⟨fun h ↦ absurd h hkind, fun h ↦ absurd h hkind, fun other hother ↦ ?_⟩
      cases hkey.symm.trans hother
      refine ⟨_, ?_, Resource.records_afterFact fact ((controller.resources.get? key).getD {})⟩
      rw [Registry.get?_update, if_pos rfl]

theorem afterFact_of_records (h : controller.Records fact) :
    controller.afterFact fact = controller := by
  by_cases hkind : fact.kind = .controller
  · simp only [afterFact, hkind]
    rw [withFact, orElse_eq_right (h.packageName hkind),
      foldl_addNew_of_subset (h.imports hkind)]
  · cases hkey : fact.endpointKey? with
    | none => exact afterFact_of_endpointKey?_eq_none hkind hkey controller
    | some key =>
      obtain ⟨resource, hresource, hrecords⟩ := h.resource key hkey
      rw [afterFact_of_endpointKey?_eq_some hkind hkey,
        Registry.update_eq_self hresource (Resource.afterFact_of_records hrecords)]

end Controller

/-! ## Models -/

/-- One of the warnings that a value is replaced. -/
def Diagnostic.isConflict : Diagnostic → Bool
  | fieldChanged .. | argumentRetyped .. | bodyReplaced .. => true
  | _ => false

namespace Model

/-- The model says what the fact says. -/
def Records (fact : Fact) (model : Model) : Prop :=
  ∀ name, fact.contributesTo? = some name →
    ∃ controller, model.controller? name = some controller ∧ controller.Records fact

/-- All controllers but the one of the fact are as before, and so is what the fact does not say
anything about in that one. -/
structure KeepsOthers (fact : Fact) (before after : Model) : Prop where
  controllers : before.controllers.SameBut fact.controller after.controllers
  controller : ((before.controller? fact.controller).getD {}).KeepsOthers fact
    ((after.controller? fact.controller).getD {})

variable {model : Model} {fact : Fact}

theorem keepsOthers_fold (model : Model) (fact : Fact) :
    model.KeepsOthers fact (model.fold fact) := by
  cases hcontributes : fact.contributesTo? with
  | none =>
    rw [fold_of_contributesTo?_eq_none hcontributes]
    exact ⟨Registry.sameBut_refl _ _, Controller.keepsOthers_refl fact _⟩
  | some name =>
    have hname := Fact.controller_of_contributesTo? hcontributes
    rw [fold_of_contributesTo?_eq_some hcontributes, ← hname]
    refine ⟨Registry.sameBut_update _ _ _ _, ?_⟩
    rw [controller?_updateController, if_pos rfl, Option.getD_some]
    exact Controller.keepsOthers_afterFact fact _

theorem records_fold (model : Model) (fact : Fact) : (model.fold fact).Records fact := by
  intro name hcontributes
  refine ⟨_, ?_, Controller.records_afterFact (by rw [hcontributes]; rfl)
    ((model.controller? name).getD {})⟩
  rw [fold_of_contributesTo?_eq_some hcontributes, controller?_updateController, if_pos rfl]

/-- Folding a fact changes nothing exactly if it is recorded already. -/
theorem fold_eq_self_iff : model.fold fact = model ↔ model.Records fact := by
  constructor
  · intro h
    have hrecords := records_fold model fact
    rwa [h] at hrecords
  · intro h
    cases hcontributes : fact.contributesTo? with
    | none => exact fold_of_contributesTo?_eq_none hcontributes model
    | some name =>
      obtain ⟨controller, hcontroller, hrecords⟩ := h name hcontributes
      rw [fold_of_contributesTo?_eq_some hcontributes, updateController,
        Registry.update_eq_self hcontroller (Controller.afterFact_of_records hrecords)]

theorem isConflict_eq_false_of_endpointKey?_eq_none (h : fact.endpointKey? = none)
    (d : Diagnostic) (hd : d ∈ model.foldDiagnostics fact) : d.isConflict = false := by
  rw [foldDiagnostics_of_endpointKey?_eq_none h] at hd
  rcases List.mem_cons.1 hd with rfl | hd
  · rfl
  · split_ifs at hd
    · cases hd
    · rw [List.mem_singleton.1 hd]
      rfl
    · rw [List.mem_singleton.1 hd]
      rfl

/-- A fact that is recorded contradicts nothing. -/
theorem isConflict_eq_false_of_records (h : model.Records fact) (d : Diagnostic)
    (hd : d ∈ model.foldDiagnostics fact) : d.isConflict = false := by
  cases hkey : fact.endpointKey? with
  | none => exact isConflict_eq_false_of_endpointKey?_eq_none hkey d hd
  | some key =>
    obtain ⟨controller, hcontroller, hrecords⟩ := h _ (Fact.contributesTo?_of_endpointKey? hkey)
    obtain ⟨resource, hresource, hrecords⟩ := hrecords.resource key hkey
    have hresource : model.resource? fact.controller key = some resource := by
      rw [resource?, hcontroller, Option.bind_some, hresource]
    rw [foldDiagnostics_of_endpointKey?_eq_some hkey, hresource, Option.getD_some,
      Resource.conflicts_of_records hrecords, List.mem_singleton] at hd
    rw [hd]
    rfl

/-- For every model, whatever it holds, and every fact: a fact that has been folded is recorded, so
folding it again changes nothing and contradicts nothing, and all else is as before. A fact of
unknown kind and a route or parameter fact without a method leave everything as before. -/
theorem fold_idempotent_and_local (model : Model) (fact : Fact) :
    let once := model.fold fact
    (once.fold fact = once ∧ ∀ d ∈ once.foldDiagnostics fact, d.isConflict = false) ∧
      once.Records fact ∧ model.KeepsOthers fact once ∧
      (fact.kind = .unknown ∨ fact.kind ≠ .controller ∧ fact.methodKey = none →
        once = model) := by
  intro once
  have hrecords : once.Records fact := records_fold model fact
  refine ⟨⟨fold_eq_self_iff.2 hrecords, isConflict_eq_false_of_records hrecords⟩, hrecords,
    keepsOthers_fold model fact, fun h ↦ ?_⟩
  exact fold_of_contributesTo?_eq_none (Fact.contributesTo?_eq_none_of_ignored h) model

/-- A model that no facts lead to: an import is listed twice, a parameter stands under another name
than its own, and a format argument is no path variable. A fact that retypes the parameter is warned
about once, and one without a method changes nothing. -/
theorem fold_idempotent_and_local_inconsistent :
    let resource : Resource :=
      { arguments := .ofList [(some "x", ⟨some "y", some "X", none⟩), (none, {})]
        formatArguments := [some "z"] }
    let model : Model :=
      ⟨.ofList [("A", { imports := ["p.Q", "p.Q"], resources := .ofList [("A.f(X)", resource)] })]⟩
    let fact methodKey : Fact :=
      { kind := .requestParam, annotationName := "RequestParam", element := "x", controller := "A",
        methodKey, name := some "x", typeText := some "Y" }
    let retyping := fact (some "A.f(X)")
    (∃ d ∈ model.foldDiagnostics retyping, d.isConflict = true) ∧
      (model.fold retyping).fold retyping = model.fold retyping ∧
      (∀ d ∈ (model.fold retyping).foldDiagnostics retyping, d.isConflict = false) ∧
      ((model.fold retyping).resource? "A" "A.f(X)").map (·.formatArguments) = some [some "z"] ∧
      model.fold (fact none) = model := by
  intro resource model fact retyping
  obtain ⟨⟨hidempotent, hsilent⟩, -, -, -⟩ := fold_idempotent_and_local model retyping
  obtain ⟨-, -, -, hignored⟩ := fold_idempotent_and_local model (fact none)
  exact ⟨by decide +kernel, hidempotent, hsilent, by decide +kernel, hignored (by decide)⟩

end Model

end EndpointStubs
