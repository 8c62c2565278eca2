import EndpointStubs.Proofs.EndpointFacts
import EndpointStubs.Proofs.RenderOrder

/-!
# Rounds of permuted facts

Facts are free of conflicts if no two of them say different things about the
same part of the model. The model of a round of such facts does not depend on
their order, up to the order of its registries and imports, and neither do its
problems and the files that are generated for it.
-/

namespace EndpointStubs

/-- Neither value contradicts the other. -/
def Compatible {α : Type} (a b : Option α) : Prop :=
  ∀ x ∈ a, ∀ y ∈ b, x = y

namespace Fact

/-- Both facts are about one endpoint. -/
def SameEndpoint (f g : Fact) : Prop :=
  f.controller = g.controller ∧ f.endpointKey?.isSome ∧ f.endpointKey? = g.endpointKey?

/-- Two routes map the endpoint in the same way. -/
def RoutesAgree (f g : Fact) : Prop :=
  f.kind = g.kind ∧
    Compatible f.template? g.template? ∧
    Compatible f.capitalizedName? g.capitalizedName? ∧
    Compatible f.ungroupedType? g.ungroupedType?

/-- Two facts about one endpoint say the same wherever they are about the same. -/
structure Agrees (f g : Fact) : Prop where
  routes : f.isRoute → g.isRoute → f.RoutesAgree g
  parameter : f.isNamedParameter → f.kind = g.kind → f.name = g.name →
    f.typeText = g.typeText ∧ f.givenName = g.givenName
  body : f.kind = .requestBody → g.kind = .requestBody →
    f.name = g.name ∧ f.typeText = g.typeText
  /-- Path variables with different names have different placeholders. -/
  placeholder : f.kind = .pathVariable → g.kind = .pathVariable →
    f.argument.placeholder = g.argument.placeholder → f.name = g.name

/-- The placeholder is not empty and has no character that normalizing gives a meaning. -/
def HasPlainPlaceholder (fact : Fact) : Prop :=
  ∃ p ∈ fact.argument.placeholder, p ≠ "" ∧ IsPlain p.toList

end Fact

/-- No two facts contradict each other, and each names what it is about. -/
structure ConflictFree (facts : List Fact) : Prop where
  agrees : ∀ f ∈ facts, ∀ g ∈ facts, f.SameEndpoint g → f.Agrees g
  package : ∀ f ∈ facts, ∀ g ∈ facts, f.kind = .controller → g.kind = .controller →
    f.controller = g.controller → Compatible f.packageName g.packageName
  oneController : ∀ f ∈ facts, ∀ g ∈ facts, f.endpointKey?.isSome →
    f.endpointKey? = g.endpointKey? → f.controller = g.controller
  named : ∀ f ∈ facts, f.endpointKey?.isSome → f.isNamedParameter → f.name ≠ none
  plain : ∀ f ∈ facts, f.endpointKey?.isSome → f.kind = .pathVariable → f.HasPlainPlaceholder

instance {α : Type} [DecidableEq α] (a b : Option α) : Decidable (Compatible a b) :=
  inferInstanceAs (Decidable (∀ x ∈ a, ∀ y ∈ b, x = y))

instance (f g : Fact) : Decidable (f.SameEndpoint g) :=
  inferInstanceAs (Decidable (_ ∧ _ ∧ _))

instance (f g : Fact) : Decidable (f.RoutesAgree g) :=
  inferInstanceAs (Decidable (_ ∧ _ ∧ _ ∧ _))

instance (f g : Fact) : Decidable (f.Agrees g) :=
  decidable_of_iff (_ ∧ _ ∧ _ ∧ _)
    ⟨fun ⟨h₁, h₂, h₃, h₄⟩ ↦ ⟨h₁, h₂, h₃, h₄⟩, fun ⟨h₁, h₂, h₃, h₄⟩ ↦ ⟨h₁, h₂, h₃, h₄⟩⟩

instance (fact : Fact) : Decidable fact.HasPlainPlaceholder :=
  inferInstanceAs (Decidable (∃ p ∈ fact.argument.placeholder, p ≠ "" ∧ IsPlain p.toList))

instance (facts : List Fact) : Decidable (ConflictFree facts) :=
  decidable_of_iff (_ ∧ _ ∧ _ ∧ _ ∧ _)
    ⟨fun ⟨h₁, h₂, h₃, h₄, h₅⟩ ↦ ⟨h₁, h₂, h₃, h₄, h₅⟩,
      fun ⟨h₁, h₂, h₃, h₄, h₅⟩ ↦ ⟨h₁, h₂, h₃, h₄, h₅⟩⟩

/-- Of values that do not contradict each other it does not matter which one comes last. -/
theorem lastSome_eq_of_perm {ι α : Type} {f : ι → Option α} {items others : List ι}
    (h : items.Perm others) (hf : ∀ a ∈ items, ∀ b ∈ items, Compatible (f a) (f b)) :
    lastSome f items = lastSome f others := by
  have hvalues := h.filterMap f
  have hsame : ∀ x ∈ items.filterMap f, ∀ y ∈ items.filterMap f, x = y := by
    intro x hx y hy
    obtain ⟨a, ha, hxa⟩ := List.mem_filterMap.1 hx
    obtain ⟨b, hb, hyb⟩ := List.mem_filterMap.1 hy
    exact hf a ha b hb x hxa y hyb
  unfold lastSome
  cases hlast : (items.filterMap f).getLast? with
  | none =>
    rw [List.getLast?_eq_none_iff] at hlast
    rw [hlast] at hvalues
    rw [← hvalues.nil_eq, List.getLast?_nil]
  | some x =>
    cases hlast' : (others.filterMap f).getLast? with
    | none =>
      rw [List.getLast?_eq_none_iff] at hlast'
      rw [hlast'] at hvalues
      rw [hvalues.eq_nil] at hlast
      cases hlast
    | some y =>
      have hy := hvalues.mem_iff.2 (List.mem_of_getLast? hlast')
      rw [hsame x (List.mem_of_getLast? hlast) y hy]

theorem parameters_sameUpTo {kind : FactKind} {group others : List Fact} (h : group.Perm others)
    (hkind : kind = .requestParam ∨ kind = .pathVariable)
    (hagree : ∀ f ∈ group, ∀ g ∈ group, f.Agrees g) :
    (Registry.grouped (Fact.parameterOf? kind) Argument.summary group).SameUpTo (· = ·)
      (Registry.grouped (Fact.parameterOf? kind) Argument.summary others) := by
  refine Registry.sameUpTo_grouped h fun name ↦ ?_
  have hof {f : Fact} (hf : f ∈ group.filter (Fact.parameterOf? kind · = some name)) :
      f ∈ group ∧ f.kind = kind ∧ f.name = name := by
    obtain ⟨hmem, hname⟩ := List.mem_filter.1 hf
    rw [decide_eq_true_eq, Fact.parameterOf?, Option.ite_none_right_eq_some, Option.some.injEq]
      at hname
    exact ⟨hmem, hname⟩
  rw [Argument.summary, Argument.summary, lastSome_eq_of_perm (h.filter _)]
  intro f hf g hg x hx y hy
  obtain ⟨hmem, hf, hname⟩ := hof hf
  obtain ⟨hmem', hg, hname'⟩ := hof hg
  have hnamed : f.isNamedParameter = true := by
    rw [Fact.isNamedParameter, hf, Bool.or_eq_true, decide_eq_true_eq, decide_eq_true_eq]
    exact hkind
  obtain ⟨htype, hgiven⟩ := (hagree f hmem g hmem').parameter hnamed (hf.trans hg.symm)
    (hname.trans hname'.symm)
  cases hx
  cases hy
  rw [Fact.argument, Fact.argument, hname, hname', htype, hgiven]

theorem Resource.summary_sameUpToOrder {group others : List Fact} (h : group.Perm others)
    (hagree : ∀ f ∈ group, ∀ g ∈ group, f.Agrees g) :
    (Resource.summary group).SameUpToOrder (Resource.summary others) := by
  have hroute {α : Type} {value : Fact → Option α}
      (hvalue : ∀ f g : Fact, f.RoutesAgree g → Compatible (value f) (value g)) :
      lastSome value (group.filter Fact.isRoute) = lastSome value (others.filter Fact.isRoute) := by
    refine lastSome_eq_of_perm (h.filter _) ?_
    intro f hf g hg
    obtain ⟨hmem, hf⟩ := List.mem_filter.1 hf
    obtain ⟨hmem', hg⟩ := List.mem_filter.1 hg
    exact hvalue f g ((hagree f hmem g hmem').routes hf hg)
  exact {
    methodName := hroute fun f g hagrees ↦ hagrees.2.2.1
    httpMethod := hroute fun f g hagrees x hx y hy ↦ by
      rw [Fact.routeMethod?, hagrees.1] at hx
      exact Option.some.inj (hx.symm.trans hy)
    template := hroute fun f g hagrees ↦ hagrees.2.1
    responseType := hroute fun f g hagrees ↦ hagrees.2.2.2
    hasPathVariable := h.any_eq
    arguments := parameters_sameUpTo h (.inl rfl) hagree
    pathVariables := parameters_sameUpTo h (.inr rfl) hagree
    requestBody := by
      refine lastSome_eq_of_perm (h.filter _) ?_
      intro f hf g hg x hx y hy
      obtain ⟨hmem, hkind⟩ := List.mem_filter.1 hf
      obtain ⟨hmem', hkind'⟩ := List.mem_filter.1 hg
      obtain ⟨hname, htype⟩ := (hagree f hmem g hmem').body (of_decide_eq_true hkind)
        (of_decide_eq_true hkind')
      cases hx
      cases hy
      rw [Fact.body, Fact.body, hname, htype]
    formatArguments := rfl }

namespace ConflictFree

variable {facts others : List Fact} {controller key : String} {resource : Resource}

theorem perm (hfree : ConflictFree facts) (h : facts.Perm others) : ConflictFree others := by
  constructor
  all_goals simp only [← h.mem_iff]
  · exact hfree.agrees
  · exact hfree.package
  · exact hfree.oneController
  · exact hfree.named
  · exact hfree.plain

theorem agrees_endpointFacts (hfree : ConflictFree facts) (controller key : String) :
    ∀ f ∈ endpointFacts controller key facts, ∀ g ∈ endpointFacts controller key facts,
      f.Agrees g := by
  intro f hf g hg
  obtain ⟨hmem, hcontroller, hkey⟩ := mem_endpointFacts.1 hf
  obtain ⟨hmem', hcontroller', hkey'⟩ := mem_endpointFacts.1 hg
  exact hfree.agrees f hmem g hmem'
    ⟨hcontroller.trans hcontroller'.symm, by rw [hkey]; rfl, hkey.trans hkey'.symm⟩

theorem controller_summary (hfree : ConflictFree facts) (h : facts.Perm others)
    (controller : String) :
    (Controller.summary (facts.filter (·.contributesTo? = some controller))).SameUpToOrder
      (Controller.summary (others.filter (·.contributesTo? = some controller))) where
  packageName := by
    refine lastSome_eq_of_perm ((h.filter _).filter _) ?_
    intro f hf g hg
    have hof {f : Fact} (hf : f ∈ (facts.filter (·.contributesTo? = some controller)).filter
        (·.kind = .controller)) : f ∈ facts ∧ f.kind = .controller ∧ f.controller = controller := by
      obtain ⟨hmem, hkind⟩ := List.mem_filter.1 hf
      obtain ⟨hmem, hcontributes⟩ := List.mem_filter.1 hmem
      rw [decide_eq_true_eq] at hkind hcontributes
      exact ⟨hmem, hkind, Fact.controller_of_contributesTo? hcontributes⟩
    obtain ⟨hmem, hkind, hcontroller⟩ := hof hf
    obtain ⟨hmem', hkind', hcontroller'⟩ := hof hg
    exact hfree.package f hmem g hmem' hkind hkind' (hcontroller.trans hcontroller'.symm)
  imports := by
    refine (List.perm_ext_iff_of_nodup (nodup_eraseDups _) (nodup_eraseDups _)).2 fun name ↦ ?_
    rw [List.mem_eraseDups, List.mem_eraseDups]
    exact (((h.filter _).filter _).flatMap_right Fact.imports).mem_iff
  resources := Registry.sameUpTo_grouped (h.filter _) fun key ↦
    Resource.summary_sameUpToOrder ((h.filter _).filter _)
      (hfree.agrees_endpointFacts controller key)

theorem model_summary (hfree : ConflictFree facts) (h : facts.Perm others) :
    (Model.summary facts).SameUpToOrder (Model.summary others) :=
  Registry.sameUpTo_grouped h fun controller ↦ hfree.controller_summary h controller

theorem hasPlainPlaceholders (hfree : ConflictFree facts) (controller key : String) :
    (Resource.summary (endpointFacts controller key facts)).HasPlainPlaceholders where
  named name v hv := by
    obtain ⟨f, -, -, hname, rfl⟩ := exists_fact_of_get?_parameters hv
    exact hname
  plain name v hv := by
    obtain ⟨f, hf, hkind, -, rfl⟩ := exists_fact_of_get?_parameters hv
    obtain ⟨hmem, -, hkey⟩ := mem_endpointFacts.1 hf
    exact hfree.plain f hmem (by rw [hkey]; rfl) hkind
  distinct name v other w hv hw heq := by
    obtain ⟨f, hf, hkind, hname, rfl⟩ := exists_fact_of_get?_parameters hv
    obtain ⟨g, hg, hkind', hname', rfl⟩ := exists_fact_of_get?_parameters hw
    rw [← hname, ← hname']
    exact (hfree.agrees_endpointFacts controller key f hf g hg).placeholder hkind hkind' heq

theorem exists_group (hresource : (roundModel .textual facts).resource? controller key =
    some resource) : endpointFacts controller key facts ≠ [] ∧
      (Resource.summary (endpointFacts controller key facts)).normalize .textual = resource := by
  obtain ⟨raw, hraw, rfl⟩ := resource?_roundModel.1 hresource
  obtain ⟨hne, rfl⟩ := Model.resource?_summary.1 hraw
  exact ⟨hne, rfl⟩

theorem roundModel_sameUpToOrder (hfree : ConflictFree facts) (h : facts.Perm others) :
    (roundModel .textual facts).SameUpToOrder (roundModel .textual others) := by
  rw [roundModel_eq, roundModel_eq]
  refine (hfree.model_summary h).normalize fun controller key resource hresource ↦ ?_
  obtain ⟨-, rfl⟩ := Model.resource?_summary.1 hresource
  exact hfree.hasPlainPlaceholders controller key

theorem hasUniqueKeys (hfree : ConflictFree facts) :
    (roundModel .textual facts).HasUniqueKeys := by
  intro controller other key resource resource' hresource hresource'
  obtain ⟨f, hf⟩ := List.exists_mem_of_ne_nil _ (exists_group hresource).1
  obtain ⟨g, hg⟩ := List.exists_mem_of_ne_nil _ (exists_group hresource').1
  obtain ⟨hmem, rfl, hkey⟩ := mem_endpointFacts.1 hf
  obtain ⟨hmem', rfl, hkey'⟩ := mem_endpointFacts.1 hg
  exact hfree.oneController f hmem g hmem' (by rw [hkey]; rfl) (hkey.trans hkey'.symm)

theorem hasNamedParameters (hfree : ConflictFree facts) : HasNamedParameters facts :=
  hfree.named

theorem hasNamedVariables (hfree : ConflictFree facts) :
    (roundModel .textual facts).HasNamedVariables :=
  hfree.hasNamedParameters.hasNamedVariables

theorem renderable (hfree : ConflictFree facts)
    (hresource : (roundModel .textual facts).resource? controller key = some resource) :
    resource.Renderable :=
  hfree.hasNamedParameters.renderable hresource

end ConflictFree

theorem Model.SameUpToOrder.listedProblems {m n : Model} (h : m.SameUpToOrder n)
    {key : String} {found : List Problem} :
    (∃ controller resource, m.resource? controller key = some resource ∧
      resource.listedProblems = found) →
    ∃ controller resource, n.resource? controller key = some resource ∧
      resource.listedProblems = found := by
  rintro ⟨controller, resource, hresource, rfl⟩
  obtain ⟨other, hother, hsame⟩ := h.resource? hresource
  refine ⟨controller, other, hother, ?_⟩
  rw [Resource.listedProblems, Resource.listedProblems, hsame.problems_eq]

/-- The outcome of a round of facts without conflicts does not depend on their order: the models
are the same up to order, each endpoint has the same problems, and all files are the same. -/
theorem round_eq_of_perm {facts others : List Fact} (hfree : ConflictFree facts)
    (h : facts.Perm others) :
    let model := roundModel .textual facts
    let model' := roundModel .textual others
    model.SameUpToOrder model' ∧
    (∃ problems problems', model.problems = .ok problems ∧ model'.problems = .ok problems' ∧
      ∀ key, problems.get? key = problems'.get? key) ∧
    ∀ suffixes, (∃ files, model.stubFiles suffixes = .ok files ∧
        model'.stubFiles suffixes = .ok files) ∧
      model.baseFiles suffixes = model'.baseFiles suffixes := by
  have hmodel := hfree.roundModel_sameUpToOrder h
  have hfree' := hfree.perm h
  refine ⟨hmodel, ?_, fun suffixes ↦ ⟨?_, hmodel.baseFiles_eq suffixes⟩⟩
  · have hproblems := Model.problems_eq hfree.hasNamedVariables
    have hproblems' := Model.problems_eq hfree'.hasNamedVariables
    refine ⟨_, _, hproblems, hproblems', fun key ↦ ?_⟩
    ext found
    rw [Model.get?_problems hfree.hasNamedVariables hfree.hasUniqueKeys hproblems,
      Model.get?_problems hfree'.hasNamedVariables hfree'.hasUniqueKeys hproblems']
    exact and_congr_right fun _ ↦
      ⟨hmodel.listedProblems, (hfree'.roundModel_sameUpToOrder h.symm).listedProblems⟩
  · obtain ⟨files, hfiles⟩ := Model.exists_stubFiles (fun _ _ _ ↦ hfree.renderable) suffixes
    exact ⟨files, hfiles, hmodel.stubFiles_eq suffixes ▸ hfiles⟩

/-- The facts of a controller whose method is mapped twice, reversed. -/
theorem round_eq_of_perm_reverse :
    let about kind path name : Fact :=
      { kind, annotationName := "", element := "", controller := "a.B", methodKey := some "a.B.f()",
        methodName := some "f", path, name, typeText := some "Long" }
    let facts : List Fact :=
      [{ kind := .controller, annotationName := "", element := "", controller := "a.B",
         packageName := some "a", imports := ["c.D", "c.E"] },
        about .getRoute [] none, about .getRoute ["/{y}/{x}"] none,
        about .pathVariable [] (some "x"), about .pathVariable [] (some "y"),
        about .requestParam [] (some "q")]
    (roundModel .textual facts).stubFiles {} = (roundModel .textual facts.reverse).stubFiles {} := by
  intro about facts
  have hround := @round_eq_of_perm facts facts.reverse (by decide +kernel)
    facts.reverse_perm.symm
  obtain ⟨files, hfiles, hfiles'⟩ := (hround.2.2 {}).1
  rw [hfiles, hfiles']

end EndpointStubs
