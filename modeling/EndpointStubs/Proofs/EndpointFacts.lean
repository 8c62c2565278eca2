import EndpointStubs.Proofs.FoldSummary
import EndpointStubs.Proofs.RegistryOrder
import EndpointStubs.Proofs.RenderSuccess
import EndpointStubs.Round

/-!
# The facts about one endpoint

An endpoint of the model of a round is described by the facts that name its
controller and its method. A path variable stands in its registry under its own
name, as the last fact about it says, and normalizing changes only the template
and the format arguments. So the model can be checked and rendered if the facts
about parameters say their names.
-/

namespace EndpointStubs

/-- The facts about an endpoint of a controller. -/
def endpointFacts (controller key : String) (facts : List Fact) : List Fact :=
  (facts.filter (·.contributesTo? = some controller)).filter (·.endpointKey? = some key)

theorem mem_endpointFacts {controller key : String} {facts : List Fact} {fact : Fact} :
    fact ∈ endpointFacts controller key facts ↔
      fact ∈ facts ∧ fact.controller = controller ∧ fact.endpointKey? = some key := by
  rw [endpointFacts, List.mem_filter, List.mem_filter, decide_eq_true_eq, decide_eq_true_eq,
    and_assoc]
  refine and_congr_right fun _ ↦ and_congr_left fun hkey ↦ ?_
  rw [Fact.contributesTo?_of_endpointKey? hkey, Option.some.injEq]

theorem Fact.endpointKey?_of_isRoute {fact : Fact} (h : fact.isRoute = true) :
    fact.endpointKey? = fact.methodKey := by
  cases hkind : fact.kind <;> simp_all [isRoute, routeMethod?, endpointKey?]

/-- An endpoint is described by facts with its key. -/
theorem methodKey_of_mem_endpointFacts {controller key : String} {facts : List Fact} {fact : Fact}
    (h : fact ∈ endpointFacts controller key facts) : fact.methodKey = some key := by
  obtain ⟨-, -, hkey⟩ := mem_endpointFacts.1 h
  rw [Fact.endpointKey?] at hkey
  split at hkey <;> first | exact hkey | cases hkey

/-- The model has an endpoint if there is a fact about it, and then as all of these describe it. -/
theorem Model.resource?_summary {facts : List Fact} {controller key : String}
    {resource : Resource} :
    (Model.summary facts).resource? controller key = some resource ↔
      endpointFacts controller key facts ≠ [] ∧
        Resource.summary (endpointFacts controller key facts) = resource := by
  rw [resource?, controller?, Model.summary, Option.bind_eq_some_iff]
  constructor
  · rintro ⟨c, hc, hresource⟩
    obtain ⟨-, rfl⟩ := Registry.get?_grouped_eq_some_iff.1 hc
    exact Registry.get?_grouped_eq_some_iff.1 hresource
  · rintro ⟨hne, hresource⟩
    have hgroup : facts.filter (·.contributesTo? = some controller) ≠ [] := by
      intro hnil
      refine hne ?_
      rw [endpointFacts, hnil, List.filter_nil]
    exact ⟨_, Registry.get?_grouped_eq_some_iff.2 ⟨hgroup, rfl⟩,
      Registry.get?_grouped_eq_some_iff.2 ⟨hne, hresource⟩⟩

/-- What is registered under a name is what some fact says about the parameter of that name. -/
theorem exists_fact_of_get?_parameters {kind : FactKind} {facts : List Fact}
    {name : Option String} {argument : Argument}
    (h : (Registry.grouped (Fact.parameterOf? kind) Argument.summary facts).get? name =
      some argument) :
    ∃ fact ∈ facts, fact.kind = kind ∧ fact.name = name ∧ fact.argument = argument := by
  obtain ⟨hne, rfl⟩ := Registry.get?_grouped_eq_some_iff.1 h
  let group := facts.filter (Fact.parameterOf? kind · = some name)
  have hsplit : group.dropLast ++ [group.getLast hne] = group := List.dropLast_concat_getLast hne
  have hlast : group.getLast hne ∈ group := List.getLast_mem hne
  generalize group.getLast hne = last at hsplit hlast
  obtain ⟨hmem, hname⟩ := List.mem_filter.1 hlast
  rw [decide_eq_true_eq, Fact.parameterOf?, Option.ite_none_right_eq_some, Option.some.injEq]
    at hname
  refine ⟨last, hmem, hname.1, hname.2, ?_⟩
  calc
    _ = Argument.summary (group.dropLast ++ [last]) := by
      rw [Argument.summary, lastSome_concat]
      rfl
    _ = _ := by rw [hsplit]

/-- A path variable is registered under its own name. -/
theorem Model.name_of_get?_pathVariables {facts : List Fact} {controller key : String}
    {raw : Resource} (hraw : (Model.summary facts).resource? controller key = some raw)
    (name : Option String) (v : Argument) (hv : raw.pathVariables.get? name = some v) :
    v.name = name := by
  obtain ⟨-, rfl⟩ := Model.resource?_summary.1 hraw
  obtain ⟨fact, -, -, hname, rfl⟩ := exists_fact_of_get?_parameters hv
  exact hname

namespace Resource

/-- Normalizing changes the template and the format arguments and nothing else. -/
theorem exists_normalize_eq (order : VariableOrder) (resource : Resource) :
    ∃ template formatArguments,
      resource.normalize order = { resource with template, formatArguments } := by
  unfold normalize
  split
  · exact ⟨resource.template, resource.formatArguments, rfl⟩
  · split
    · exact ⟨resource.template, resource.formatArguments, rfl⟩
    · exact ⟨_, _, rfl⟩

theorem normalize_eq_self {resource : Resource}
    (h : resource.template = none ∨ resource.pathVariables.isEmpty = true) (order : VariableOrder) :
    resource.normalize order = resource := by
  unfold normalize
  split
  · rfl
  · rename_i template htemplate
    rw [if_pos (h.resolve_left (by rw [htemplate]; nofun))]

theorem methodName_normalize (order : VariableOrder) (resource : Resource) :
    (resource.normalize order).methodName = resource.methodName := by
  obtain ⟨template, formatArguments, h⟩ := exists_normalize_eq order resource
  rw [h]

theorem httpMethod_normalize (order : VariableOrder) (resource : Resource) :
    (resource.normalize order).httpMethod = resource.httpMethod := by
  obtain ⟨template, formatArguments, h⟩ := exists_normalize_eq order resource
  rw [h]

theorem responseType_normalize (order : VariableOrder) (resource : Resource) :
    (resource.normalize order).responseType = resource.responseType := by
  obtain ⟨template, formatArguments, h⟩ := exists_normalize_eq order resource
  rw [h]

theorem pathVariables_normalize (order : VariableOrder) (resource : Resource) :
    (resource.normalize order).pathVariables = resource.pathVariables := by
  obtain ⟨template, formatArguments, h⟩ := exists_normalize_eq order resource
  rw [h]

theorem arguments_normalize (order : VariableOrder) (resource : Resource) :
    (resource.normalize order).arguments = resource.arguments := by
  obtain ⟨template, formatArguments, h⟩ := exists_normalize_eq order resource
  rw [h]

theorem requestBody_normalize (order : VariableOrder) (resource : Resource) :
    (resource.normalize order).requestBody = resource.requestBody := by
  obtain ⟨template, formatArguments, h⟩ := exists_normalize_eq order resource
  rw [h]

section Named

variable {raw : Resource}
  (hnamed : ∀ name v, raw.pathVariables.get? name = some v → v.name = name)

include hnamed

/-- A placeholder is filled by a path variable that has it. -/
theorem exists_variable_of_get?_placeholders {p name : Option String}
    (h : raw.placeholders.get? p = some name) :
    ∃ v, raw.pathVariables.get? name = some v ∧ v.placeholder = p := by
  obtain ⟨v, hv, heq⟩ := List.mem_map.1 (Registry.mem_of_get?_ofList h)
  obtain ⟨⟨key, w⟩, hw, rfl⟩ := List.mem_map.1 hv
  have hget := Registry.get?_eq_some_iff.2 hw
  have hname : w.name = name := congrArg Prod.snd heq
  exact ⟨w, by rw [← hname, hnamed key w hget, hget], congrArg Prod.fst heq⟩

/-- Only path variables are recorded as format arguments. -/
theorem isSome_get?_of_mem_argumentOrder {order : VariableOrder} {template : List Char}
    {name : Option String} (h : name ∈ argumentOrder order raw.placeholders template) :
    (raw.pathVariables.get? name).isSome := by
  have hregistered : ∃ p, raw.placeholders.get? p = some name := by
    cases order with
    | textual =>
      obtain ⟨group, -, hgroup⟩ := List.mem_filterMap.1 h
      exact ⟨_, hgroup⟩
    | declaration =>
      obtain ⟨⟨p, name'⟩, hentry, hmem⟩ := List.mem_flatMap.1 h
      obtain rfl := List.eq_of_mem_replicate hmem
      exact ⟨p, Registry.get?_eq_some_iff.2 hentry⟩
  obtain ⟨p, hp⟩ := hregistered
  obtain ⟨v, hv, -⟩ := exists_variable_of_get?_placeholders hnamed hp
  rw [hv]
  rfl

/-- Normalizing adds path variables as format arguments and nothing else. -/
theorem isSome_get?_of_mem_formatArguments {order : VariableOrder} {name : Option String}
    (hraw : ∀ earlier ∈ raw.formatArguments, (raw.pathVariables.get? earlier).isSome)
    (h : name ∈ (raw.normalize order).formatArguments) :
    (raw.pathVariables.get? name).isSome := by
  unfold normalize at h
  split at h
  · exact hraw name h
  · split at h
    · exact hraw name h
    · exact isSome_get?_of_mem_argumentOrder hnamed h

end Named

end Resource

/-- The model of a round is the described one, normalized. -/
theorem roundModel_eq (order : VariableOrder) (facts : List Fact) :
    roundModel order facts = (Model.summary facts).normalize order :=
  congrArg (Model.normalize order) (Model.foldAll_summary [] facts)

/-- The model of a round has the endpoints of the described model, normalized. -/
theorem resource?_roundModel {order : VariableOrder} {facts : List Fact} {controller key : String}
    {resource : Resource} :
    (roundModel order facts).resource? controller key = some resource ↔
      ∃ raw, (Model.summary facts).resource? controller key = some raw ∧
        raw.normalize order = resource := by
  rw [roundModel_eq, Model.normalize, Model.resource?_mapResources, Option.map_eq_some_iff]

/-- Query parameters and path variables are registered under their names. -/
def Fact.isNamedParameter (fact : Fact) : Bool :=
  fact.kind = .requestParam || fact.kind = .pathVariable

/-- All query parameters and path variables of endpoints have names. -/
def HasNamedParameters (facts : List Fact) : Prop :=
  ∀ fact ∈ facts, fact.endpointKey?.isSome → fact.isNamedParameter → fact.name ≠ none

namespace HasNamedParameters

variable {facts : List Fact} {order : VariableOrder} {controller key : String}
  {resource : Resource}

/-- No parameter is registered without a name. -/
theorem get?_none (h : HasNamedParameters facts) {kind : FactKind}
    (hkind : kind = .requestParam ∨ kind = .pathVariable) :
    (Registry.grouped (Fact.parameterOf? kind) Argument.summary
      (endpointFacts controller key facts)).get? none = none := by
  refine Option.eq_none_iff_forall_ne_some.2 fun v hv ↦ ?_
  obtain ⟨fact, hfact, hfactKind, hname, -⟩ := exists_fact_of_get?_parameters hv
  obtain ⟨hmem, -, hkey⟩ := mem_endpointFacts.1 hfact
  have hnamed : fact.isNamedParameter = true := by
    rw [Fact.isNamedParameter, hfactKind, Bool.or_eq_true, decide_eq_true_eq, decide_eq_true_eq]
    exact hkind
  exact h fact hmem (by rw [hkey]; rfl) hnamed hname

theorem hasNamedVariables (h : HasNamedParameters facts) :
    (roundModel order facts).HasNamedVariables := by
  intro controller key resource hresource
  obtain ⟨raw, hraw, rfl⟩ := resource?_roundModel.1 hresource
  obtain ⟨-, rfl⟩ := Model.resource?_summary.1 hraw
  rw [Resource.pathVariables_normalize]
  exact h.get?_none (.inr rfl)

theorem renderable (h : HasNamedParameters facts)
    (hresource : (roundModel order facts).resource? controller key = some resource) :
    resource.Renderable := by
  obtain ⟨raw, hraw, rfl⟩ := resource?_roundModel.1 hresource
  have hnamed := Model.name_of_get?_pathVariables hraw
  obtain ⟨-, rfl⟩ := Model.resource?_summary.1 hraw
  refine ⟨fun name hname ↦ ?_, ?_⟩
  · have hsome := Resource.isSome_get?_of_mem_formatArguments hnamed nofun hname
    rw [Resource.pathVariables_normalize]
    refine ⟨?_, hsome⟩
    rintro rfl
    have hnone : (Resource.summary (endpointFacts controller key facts)).pathVariables.get? none =
        none := h.get?_none (.inr rfl)
    rw [hnone] at hsome
    cases hsome
  · rw [Resource.arguments_normalize]
    exact h.get?_none (.inl rfl)

end HasNamedParameters

end EndpointStubs
