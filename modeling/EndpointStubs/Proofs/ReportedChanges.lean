import EndpointStubs.Proofs.ModelSteps

/-!
# Reported changes

A fact that gives a field of the model another value than it had is warned
about, and nothing else is, for any model that can come about: the values that
routes give, parameter types and whole request bodies are compared with what was
there before. Only two fields are overwritten in silence, the package of a
controller and the name that an annotation gives to a parameter. Imports and
endpoints and parameters as such have no place here: they are only ever added.
-/

namespace EndpointStubs

inductive ArgumentField where
  | name
  | type
  | givenName
  deriving DecidableEq, Repr

inductive ResourceField where
  | template
  | httpMethod
  | methodName
  | responseType
  | requestBody
  | ofArgument (name : Option String) (field : ArgumentField)
  | ofPathVariable (name : Option String) (field : ArgumentField)
  deriving DecidableEq, Repr

/-- The fields of a model that have no value before they are set. -/
inductive ModelField where
  | packageName (controller : String)
  | ofEndpoint (controller key : String) (field : ResourceField)
  deriving DecidableEq, Repr

inductive FieldValue where
  | text (text : String)
  | method (method : HttpMethod)
  | argument (argument : Argument)
  deriving DecidableEq, Repr

def Argument.value? (argument : Argument) : ArgumentField → Option FieldValue
  | .name => argument.name.map .text
  | .type => argument.type.map .text
  | .givenName => argument.givenName.map .text

def Resource.value? (resource : Resource) : ResourceField → Option FieldValue
  | .template => resource.template.map .text
  | .httpMethod => resource.httpMethod.map .method
  | .methodName => resource.methodName.map .text
  | .responseType => resource.responseType.map .text
  | .requestBody => resource.requestBody.map .argument
  | .ofArgument name field => (resource.arguments.get? name).bind (·.value? field)
  | .ofPathVariable name field => (resource.pathVariables.get? name).bind (·.value? field)

/-- What a field of the model holds, if it is set. -/
def Model.value? (model : Model) : ModelField → Option FieldValue
  | .packageName controller =>
    (model.controller? controller).bind fun c ↦ c.packageName.map .text
  | .ofEndpoint controller key field => (model.resource? controller key).bind (·.value? field)

/-- The changes of these fields are reported. -/
def ResourceField.isReported : ResourceField → Bool
  | ofArgument _ field | ofPathVariable _ field => field ≠ .givenName
  | _ => true

def ModelField.isReported : ModelField → Bool
  | packageName _ => false
  | ofEndpoint _ _ field => field.isReported

/-- A fact about this endpoint is about this field. -/
def ResourceField.IsAddressedBy (fact : Fact) : ResourceField → Prop
  | template | httpMethod | methodName | responseType => fact.isRoute = true
  | requestBody => fact.kind = .requestBody
  | ofArgument name _ => fact.kind = .requestParam ∧ fact.name = name
  | ofPathVariable name _ => fact.kind = .pathVariable ∧ fact.name = name

/-- The fields of the controller or of the endpoint, the parameter or the request body that a fact
is about. -/
def ModelField.IsAddressedBy (fact : Fact) : ModelField → Prop
  | packageName controller => fact.kind = .controller ∧ fact.controller = controller
  | ofEndpoint controller key field =>
    fact.controller = controller ∧ fact.endpointKey? = some key ∧ field.IsAddressedBy fact

section Replaced

variable {α β : Type}

/-- A value was there, and it is not there any more. -/
def IsReplaced (before after : Option α) : Prop :=
  before ≠ none ∧ after ≠ before

instance [DecidableEq α] (before after : Option α) : Decidable (IsReplaced before after) :=
  inferInstanceAs (Decidable (_ ∧ _))

theorem not_isReplaced_self (a : Option α) : ¬ IsReplaced a a :=
  fun h ↦ h.2 rfl

theorem isReplaced_map_iff {f : α → β} (hf : Function.Injective f) {before after : Option α} :
    IsReplaced (before.map f) (after.map f) ↔ IsReplaced before after := by
  rw [IsReplaced, IsReplaced, ne_eq, Option.map_eq_none_iff,
    (Option.map_injective hf).ne_iff]

theorem fieldChange_ne_nil_iff [DecidableEq α] {key field : String} {shown : α → String}
    {current new : Option α} :
    fieldChange key field shown current new ≠ [] ↔ IsReplaced current (new <|> current) := by
  cases current with
  | none => simp [fieldChange, IsReplaced]
  | some before =>
    cases new with
    | none => simp [fieldChange, IsReplaced]
    | some after => simp [fieldChange, IsReplaced, eq_comm]

end Replaced

theorem FieldValue.text_injective : Function.Injective text :=
  fun _ _ h ↦ by cases h; rfl

theorem FieldValue.method_injective : Function.Injective method :=
  fun _ _ h ↦ by cases h; rfl

theorem FieldValue.argument_injective : Function.Injective argument :=
  fun _ _ h ↦ by cases h; rfl

namespace Resource

variable {resource : Resource} {fact : Fact} {key : String}

/-- What a fact about this endpoint contradicts. -/
def conflicts (key : String) (fact : Fact) (resource : Resource) : List Diagnostic :=
  match fact.kind with
  | .getRoute => resource.routeConflicts key .get fact
  | .postRoute => resource.routeConflicts key .post fact
  | .requestParam => typeConflicts key fact resource.arguments
  | .pathVariable => typeConflicts key fact resource.pathVariables
  | .requestBody => resource.bodyConflicts key fact
  | .controller | .unknown => []

theorem isWarning_of_mem_fieldChange {α : Type} [DecidableEq α] {key field : String}
    {shown : α → String} {current new : Option α} {d : Diagnostic}
    (h : d ∈ fieldChange key field shown current new) : d.isWarning = true := by
  unfold fieldChange at h
  split at h
  · split at h
    · cases h
    · rw [List.mem_singleton.1 h]
      rfl
  · cases h

theorem isWarning_of_mem_typeConflicts {registry : Registry (Option String) Argument}
    {d : Diagnostic} (h : d ∈ typeConflicts key fact registry) : d.isWarning = true := by
  unfold typeConflicts at h
  split at h
  · cases h
  · split at h
    · cases h
    · rw [List.mem_singleton.1 h]
      rfl

theorem isWarning_of_mem_bodyConflicts {d : Diagnostic}
    (h : d ∈ resource.bodyConflicts key fact) : d.isWarning = true := by
  unfold bodyConflicts at h
  split at h
  · cases h
  · split at h
    · cases h
    · rw [List.mem_singleton.1 h]
      rfl

theorem isWarning_of_mem_conflicts {d : Diagnostic} (h : d ∈ resource.conflicts key fact) :
    d.isWarning = true := by
  have hroute {method : HttpMethod} (h : d ∈ resource.routeConflicts key method fact) :
      d.isWarning = true := by
    simp only [routeConflicts, List.mem_append] at h
    rcases h with ((h | h) | h) | h <;> exact isWarning_of_mem_fieldChange h
  unfold conflicts at h
  split at h
  · exact hroute h
  · exact hroute h
  · exact isWarning_of_mem_typeConflicts h
  · exact isWarning_of_mem_typeConflicts h
  · exact isWarning_of_mem_bodyConflicts h
  · cases h
  · cases h

theorem value?_empty (field : ResourceField) : ({} : Resource).value? field = none := by
  cases field <;> rfl

/-- A field that another fact is about keeps its value. -/
theorem isAddressedBy_of_isReplaced {field : ResourceField}
    (h : IsReplaced (resource.value? field) ((resource.afterFact fact).value? field)) :
    field.IsAddressedBy fact := by
  have hentry {registry : Registry (Option String) Argument} {name : Option String}
      {part : ArgumentField}
      (h : IsReplaced ((registry.get? name).bind (·.value? part))
        (((registry.insert fact.name fact.argument).get? name).bind (·.value? part))) :
      fact.name = name := by
    by_contra hname
    rw [Registry.get?_insert, if_neg fun heq ↦ hname heq.symm] at h
    exact not_isReplaced_self _ h
  unfold afterFact at h
  split at h <;> rename_i hkind <;> cases field <;>
    first
    | exact absurd h (not_isReplaced_self _)
    | exact hkind
    | exact ⟨hkind, hentry h⟩
    | simp [ResourceField.IsAddressedBy, Fact.isRoute, Fact.routeMethod?, hkind]

theorem routeConflicts_ne_nil_iff {method : HttpMethod} :
    resource.routeConflicts key method fact ≠ [] ↔ ∃ field : ResourceField,
      field.isReported ∧ IsReplaced (resource.value? field)
        ((resource.withRoute method fact).value? field) := by
  simp only [routeConflicts, ne_eq, List.append_eq_nil_iff, not_and_or]
  simp only [← ne_eq, fieldChange_ne_nil_iff]
  constructor
  · rintro (((h | h) | h) | h)
    · exact ⟨.template, rfl, (isReplaced_map_iff FieldValue.text_injective).2 h⟩
    · exact ⟨.httpMethod, rfl, (isReplaced_map_iff FieldValue.method_injective).2 h⟩
    · exact ⟨.methodName, rfl, (isReplaced_map_iff FieldValue.text_injective).2 h⟩
    · exact ⟨.responseType, rfl, (isReplaced_map_iff FieldValue.text_injective).2 h⟩
  · rintro ⟨field, -, h⟩
    cases field with
    | template => exact .inl (.inl (.inl ((isReplaced_map_iff FieldValue.text_injective).1 h)))
    | httpMethod => exact .inl (.inl (.inr ((isReplaced_map_iff FieldValue.method_injective).1 h)))
    | methodName => exact .inl (.inr ((isReplaced_map_iff FieldValue.text_injective).1 h))
    | responseType => exact .inr ((isReplaced_map_iff FieldValue.text_injective).1 h)
    | requestBody | ofArgument | ofPathVariable => exact absurd h (not_isReplaced_self _)

theorem typeConflicts_ne_nil_iff {registry : Registry (Option String) Argument} :
    typeConflicts key fact registry ≠ [] ↔
      IsReplaced ((registry.get? fact.name).bind (·.type)) fact.typeText := by
  unfold typeConflicts
  cases htype : (registry.get? fact.name).bind (·.type) with
  | none => simp [IsReplaced]
  | some before => simp [IsReplaced]

/-- An entry that stands under its own name can be replaced only in its type and its given name. -/
theorem isReplaced_insert_iff {registry : Registry (Option String) Argument}
    (hnamed : registry.IsNamedByKeys) (argument : Argument) :
    (∃ name part, part ≠ .givenName ∧
      IsReplaced ((registry.get? name).bind (·.value? part))
        (((registry.insert argument.name argument).get? name).bind (·.value? part))) ↔
      IsReplaced ((registry.get? argument.name).bind (·.type)) argument.type := by
  have htype : (registry.get? argument.name).bind (·.value? .type) =
      ((registry.get? argument.name).bind (·.type)).map .text := by
    cases registry.get? argument.name <;> rfl
  rw [← isReplaced_map_iff FieldValue.text_injective, ← htype]
  constructor
  · rintro ⟨name, part, hpart, h⟩
    rw [Registry.get?_insert] at h
    split at h
    · rename_i hname
      subst hname
      cases part with
      | name =>
        cases hget : registry.get? argument.name with
        | none =>
          rw [hget] at h
          exact absurd rfl h.1
        | some before =>
          -- The names are the same, and so are their values.
          rw [hget, Option.bind_some, Option.bind_some, Argument.value?, Argument.value?,
            hnamed _ _ hget] at h
          exact absurd h (not_isReplaced_self _)
      | type => exact h
      | givenName => exact absurd rfl hpart
    · exact absurd h (not_isReplaced_self _)
  · intro h
    refine ⟨argument.name, .type, by decide, ?_⟩
    rw [Registry.get?_insert, if_pos rfl]
    exact h

theorem bodyConflicts_ne_nil_iff :
    resource.bodyConflicts key fact ≠ [] ↔ IsReplaced resource.requestBody (some fact.body) := by
  unfold bodyConflicts
  cases hbody : resource.requestBody with
  | none => simp [IsReplaced]
  | some before => simp [IsReplaced, Fact.body, eq_comm]

/-- If only the fields of entries of one kind have a property, a reported one that has it is the name
or the type of such an entry. -/
theorem exists_entry_iff {P : ResourceField → Prop}
    {entry : Option String → ArgumentField → ResourceField}
    (hreported : ∀ name part, (entry name part).isReported = decide (part ≠ .givenName))
    (hentry : ∀ field, P field → ∃ name part, field = entry name part) :
    (∃ name part, part ≠ .givenName ∧ P (entry name part)) ↔
      ∃ field : ResourceField, field.isReported ∧ P field := by
  constructor
  · rintro ⟨name, part, hpart, hfield⟩
    exact ⟨entry name part, (hreported name part).trans (decide_eq_true hpart), hfield⟩
  · rintro ⟨field, hfieldReported, hfield⟩
    obtain ⟨name, part, rfl⟩ := hentry field hfield
    rw [hreported] at hfieldReported
    exact ⟨name, part, of_decide_eq_true hfieldReported, hfield⟩

/-- A fact has conflicts exactly if it replaces the value of a reported field. -/
theorem conflicts_ne_nil_iff (h : resource.Consistent) :
    resource.conflicts key fact ≠ [] ↔ ∃ field : ResourceField,
      field.isReported ∧ IsReplaced (resource.value? field)
        ((resource.afterFact fact).value? field) := by
  cases hkind : fact.kind with
  | getRoute | postRoute =>
    simp only [conflicts, afterFact, hkind]
    exact routeConflicts_ne_nil_iff
  | requestParam =>
    simp only [conflicts, afterFact, hkind]
    rw [typeConflicts_ne_nil_iff]
    refine (isReplaced_insert_iff h.arguments fact.argument).symm.trans
      (@exists_entry_iff
        (fun field ↦ IsReplaced (resource.value? field) ((withArgument fact resource).value? field))
        .ofArgument (fun _ _ ↦ rfl) fun field hreplaced ↦ ?_)
    cases field with
    | ofArgument name part => exact ⟨name, part, rfl⟩
    | _ => exact absurd hreplaced (not_isReplaced_self _)
  | pathVariable =>
    simp only [conflicts, afterFact, hkind]
    rw [typeConflicts_ne_nil_iff]
    refine (isReplaced_insert_iff h.pathVariables fact.argument).symm.trans
      (@exists_entry_iff
        (fun field ↦ IsReplaced (resource.value? field) ((withPathVariable fact resource).value? field))
        .ofPathVariable (fun _ _ ↦ rfl) fun field hreplaced ↦ ?_)
    cases field with
    | ofPathVariable name part => exact ⟨name, part, rfl⟩
    | _ => exact absurd hreplaced (not_isReplaced_self _)
  | requestBody =>
    simp only [conflicts, afterFact, hkind]
    rw [bodyConflicts_ne_nil_iff, ← isReplaced_map_iff FieldValue.argument_injective]
    constructor
    · exact fun hreplaced ↦ ⟨.requestBody, rfl, hreplaced⟩
    · rintro ⟨field, -, hreplaced⟩
      cases field with
      | requestBody => exact hreplaced
      | _ => exact absurd hreplaced (not_isReplaced_self _)
  | controller | unknown =>
    simp only [conflicts, afterFact, hkind]
    refine ⟨fun hne ↦ absurd rfl hne, ?_⟩
    rintro ⟨field, -, hreplaced⟩
    exact absurd hreplaced (not_isReplaced_self _)

end Resource

/-! ## Models -/

namespace Model

variable {model : Model} {fact : Fact} {key : String}

theorem fold_of_endpointKey?_eq_some (h : fact.endpointKey? = some key) (model : Model) :
    model.fold fact = model.updateResource fact.controller key (·.afterFact fact) := by
  have hkind : fact.kind ≠ .controller := by
    intro hkind
    rw [Fact.endpointKey?_eq_none hkind] at h
    cases h
  rw [fold_of_contributesTo?_eq_some (Fact.contributesTo?_of_endpointKey? h), updateResource]
  congr 1
  funext controller
  exact Controller.afterFact_of_endpointKey?_eq_some hkind h controller

/-- What an endpoint holds, with an empty one in place of one that does not exist. -/
theorem value?_ofEndpoint (model : Model) (controller key : String) (field : ResourceField) :
    model.value? (.ofEndpoint controller key field) =
      ((model.resource? controller key).getD {}).value? field := by
  rw [value?]
  cases model.resource? controller key with
  | none => exact (Resource.value?_empty field).symm
  | some resource => rfl

theorem value?_packageName_updateResource (model : Model) (controller key : String)
    (f : Resource → Resource) (other : String) :
    (model.updateResource controller key f).value? (.packageName other) =
      model.value? (.packageName other) := by
  rw [value?, value?, updateResource, controller?_updateController]
  split
  · rename_i hother
    subst hother
    cases model.controller? other <;> rfl
  · rfl

theorem foldDiagnostics_of_endpointKey?_eq_some (h : fact.endpointKey? = some key)
    (model : Model) :
    model.foldDiagnostics fact = .folding fact.annotationName fact.element ::
      ((model.resource? fact.controller key).getD {}).conflicts key fact := by
  cases hkind : fact.kind <;>
    simp_all [Fact.endpointKey?, foldDiagnostics, foldReporting, Resource.conflicts]

/-- A fact about no endpoint is only followed, and reported as unused if it is about no controller
either. -/
theorem foldDiagnostics_of_endpointKey?_eq_none (h : fact.endpointKey? = none) (model : Model) :
    model.foldDiagnostics fact = .folding fact.annotationName fact.element ::
      if fact.kind = .controller then []
      else if fact.kind = .unknown then [.unknownKind fact.annotationName fact.element]
      else [.noEnclosingMethod fact.annotationName fact.element] := by
  cases hkind : fact.kind <;> simp_all [Fact.endpointKey?, foldDiagnostics, foldReporting]

/-- Facts of unknown kind and facts about controllers are not warned about. -/
theorem isWarning_eq_false_of_endpointKey?_eq_none (h : fact.endpointKey? = none)
    (habout : fact.methodKey ≠ none ∨ fact.kind = .controller) {d : Diagnostic}
    (hd : d ∈ model.foldDiagnostics fact) : d.isWarning = false := by
  rw [foldDiagnostics_of_endpointKey?_eq_none h] at hd
  rcases List.mem_cons.1 hd with rfl | hd
  · rfl
  · split_ifs at hd with hcontroller hunknown
    · cases hd
    · rw [List.mem_singleton.1 hd]
      rfl
    · have hkey : fact.endpointKey? = fact.methodKey := by
        cases hkind : fact.kind <;> simp_all [Fact.endpointKey?]
      rw [h] at hkey
      exact absurd hkey.symm (habout.resolve_right hcontroller)

theorem exists_isWarning_iff (habout : fact.methodKey ≠ none ∨ fact.kind = .controller) :
    (∃ d ∈ model.foldDiagnostics fact, d.isWarning = true) ↔ ∃ key, fact.endpointKey? = some key ∧
      ((model.resource? fact.controller key).getD {}).conflicts key fact ≠ [] := by
  cases hkey : fact.endpointKey? with
  | none =>
    constructor
    · rintro ⟨d, hd, hwarning⟩
      rw [isWarning_eq_false_of_endpointKey?_eq_none hkey habout hd] at hwarning
      cases hwarning
    · rintro ⟨key, hnone, -⟩
      cases hnone
  | some key =>
    rw [foldDiagnostics_of_endpointKey?_eq_some hkey]
    constructor
    · rintro ⟨d, hd, hwarning⟩
      refine ⟨key, rfl, List.ne_nil_of_mem (a := d) ?_⟩
      rcases List.mem_cons.1 hd with rfl | hd
      · cases hwarning
      · exact hd
    · rintro ⟨_, ⟨⟩, hne⟩
      obtain ⟨d, hd⟩ := List.exists_mem_of_ne_nil _ hne
      exact ⟨d, List.mem_cons_of_mem _ hd, Resource.isWarning_of_mem_conflicts hd⟩

theorem resource?_fold (model : Model) (fact : Fact) (controller key : String) :
    ((model.fold fact).resource? controller key).getD {} =
      if fact.controller = controller ∧ fact.endpointKey? = some key then
        ((model.resource? controller key).getD {}).afterFact fact
      else (model.resource? controller key).getD {} := by
  cases hkey : fact.endpointKey? with
  | some other =>
    rw [fold_of_endpointKey?_eq_some hkey, resource?_updateResource]
    by_cases haddressed : controller = fact.controller ∧ key = other
    · obtain ⟨rfl, rfl⟩ := haddressed
      simp
    · rw [if_neg haddressed, if_neg]
      rintro ⟨rfl, hother⟩
      cases hother
      exact haddressed ⟨rfl, rfl⟩
  | none =>
    rw [if_neg (by simp)]
    by_cases hkind : fact.kind = .controller
    · rw [fold_of_contributesTo?_eq_some (Fact.contributesTo?_of_kind hkind), resource?, resource?,
        controller?_updateController]
      split
      · rename_i hcontroller
        rw [hcontroller, Option.bind_some, Controller.afterFact, hkind]
        cases model.controller? fact.controller <;> rfl
      · rfl
    · rw [fold_of_contributesTo?_eq_none (Fact.contributesTo?_eq_none hkind hkey)]

/-- A fact replaces the value of a field of an endpoint if it is about this endpoint and replaces
the value there. -/
theorem isReplaced_ofEndpoint_iff {controller key : String} {field : ResourceField} :
    IsReplaced (model.value? (.ofEndpoint controller key field))
        ((model.fold fact).value? (.ofEndpoint controller key field)) ↔
      fact.controller = controller ∧ fact.endpointKey? = some key ∧
        IsReplaced (((model.resource? controller key).getD {}).value? field)
          ((((model.resource? controller key).getD {}).afterFact fact).value? field) := by
  rw [value?_ofEndpoint, value?_ofEndpoint, resource?_fold, ← and_assoc]
  split
  · rename_i haddressed
    exact (and_iff_right haddressed).symm
  · rename_i haddressed
    exact iff_of_false (not_isReplaced_self _) fun h ↦ haddressed h.1

theorem isAddressedBy_of_isReplaced_packageName {controller : String}
    (h : IsReplaced (model.value? (.packageName controller))
      ((model.fold fact).value? (.packageName controller))) :
    fact.kind = .controller ∧ fact.controller = controller := by
  cases hkey : fact.endpointKey? with
  | some key =>
    rw [fold_of_endpointKey?_eq_some hkey, value?_packageName_updateResource] at h
    exact absurd h (not_isReplaced_self _)
  | none =>
    cases hcontributes : fact.contributesTo? with
    | none =>
      rw [fold_of_contributesTo?_eq_none hcontributes] at h
      exact absurd h (not_isReplaced_self _)
    | some other =>
      rw [fold_of_contributesTo?_eq_some hcontributes, value?, value?,
        controller?_updateController] at h
      rw [Fact.contributesTo?, Option.ite_none_right_eq_some, Option.some.injEq, hkey] at hcontributes
      obtain ⟨hkind, hother⟩ := hcontributes
      split at h
      · rename_i hcontroller
        exact ⟨hkind.resolve_right (by simp), hother.trans hcontroller.symm⟩
      · exact absurd h (not_isReplaced_self _)

theorem Consistent.resource (h : model.Consistent) (controller key : String) :
    ((model.resource? controller key).getD {}).Consistent := by
  cases hresource : model.resource? controller key with
  | none => exact Resource.consistent_empty
  | some resource =>
    obtain ⟨c, hc, hresource⟩ := Option.bind_eq_some_iff.1 hresource
    exact (h controller c hc).resources key resource hresource

/-- For every model that can come about, and every fact about a controller or a method: folding the
fact into the model is warned about exactly if it replaces the value of a field of the controller,
the endpoint, the parameter or the request body that the fact is about, other than a package or a
given name. It replaces no value of any other field. -/
theorem isWarning_iff_isReplaced (steps : List ModelStep) (fact : Fact)
    (habout : fact.methodKey ≠ none ∨ fact.kind = .controller) :
    let before := (∅ : Model).run steps
    let after := before.fold fact
    ((∃ d ∈ before.foldDiagnostics fact, d.isWarning = true) ↔
      ∃ field : ModelField, field.IsAddressedBy fact ∧ field.isReported = true ∧
        IsReplaced (before.value? field) (after.value? field)) ∧
    ∀ field : ModelField, IsReplaced (before.value? field) (after.value? field) →
      field.IsAddressedBy fact := by
  intro before after
  have hconsistent : before.Consistent := Model.Consistent.run consistent_empty steps
  have haddressed (field : ModelField)
      (h : IsReplaced (before.value? field) (after.value? field)) : field.IsAddressedBy fact := by
    cases field with
    | packageName controller => exact isAddressedBy_of_isReplaced_packageName h
    | ofEndpoint controller key field =>
      obtain ⟨hcontroller, hkey, h⟩ := isReplaced_ofEndpoint_iff.1 h
      exact ⟨hcontroller, hkey, Resource.isAddressedBy_of_isReplaced h⟩
  refine ⟨?_, haddressed⟩
  rw [exists_isWarning_iff habout]
  constructor
  · rintro ⟨key, hkey, hne⟩
    obtain ⟨field, hreported, h⟩ :=
      (Resource.conflicts_ne_nil_iff (hconsistent.resource fact.controller key)).1 hne
    have hreplaced := isReplaced_ofEndpoint_iff.2 ⟨rfl, hkey, h⟩
    exact ⟨.ofEndpoint fact.controller key field, haddressed _ hreplaced, hreported, hreplaced⟩
  · rintro ⟨field, -, hreported, hreplaced⟩
    cases field with
    | packageName controller => cases hreported
    | ofEndpoint controller key field =>
      obtain ⟨rfl, hkey, h⟩ := isReplaced_ofEndpoint_iff.1 hreplaced
      exact ⟨key, hkey, (Resource.conflicts_ne_nil_iff (hconsistent.resource fact.controller key)).2
        ⟨field, hreported, h⟩⟩

/-- A parameter that gets another type, behind a route of its method. -/
theorem isWarning_iff_isReplaced_retyped :
    let about kind value typeText : Fact :=
      { kind, annotationName := "", element := "x", controller := "A", methodKey := some "A.f(X)",
        methodName := some "f", value, name := some "x", typeText }
    let steps : List ModelStep :=
      [.fold (about .getRoute ["/\x7bx\x7d"] (some "String")),
        .fold (about .pathVariable [] (some "X")), .normalize .textual]
    let fact := about .pathVariable [] (some "Y")
    ∃ d ∈ ((∅ : Model).run steps).foldDiagnostics fact, d.isWarning = true := by
  intro about steps fact
  have hreported := isWarning_iff_isReplaced steps fact (by decide)
  exact hreported.1.2 ⟨.ofEndpoint "A" "A.f(X)" (.ofPathVariable (some "x") .type),
    ⟨rfl, rfl, rfl, rfl⟩, rfl, by decide +kernel⟩

/-- The package of a controller and the given name of a parameter are replaced in silence. -/
theorem not_isWarning_of_isReplaced :
    let declared package : Fact :=
      { kind := .controller, annotationName := "RestController", element := "A", controller := "A",
        packageName := some package }
    let parameter given : Fact :=
      { kind := .requestParam, annotationName := "RequestParam", element := "x", controller := "A",
        methodKey := some "A.f(int)", methodName := some "f", typeText := some "int",
        name := some "x", givenName := some given }
    let before := (∅ : Model).run [.fold (declared "a"), .fold (parameter "p")]
    let field := ModelField.ofEndpoint "A" "A.f(int)" (.ofArgument (some "x") .givenName)
    (IsReplaced (before.value? (.packageName "A"))
        ((before.fold (declared "b")).value? (.packageName "A")) ∧
      ∀ d ∈ before.foldDiagnostics (declared "b"), d.isWarning = false) ∧
    IsReplaced (before.value? field) ((before.fold (parameter "q")).value? field) ∧
      ∀ d ∈ before.foldDiagnostics (parameter "q"), d.isWarning = false := by
  decide +kernel

end Model

end EndpointStubs
