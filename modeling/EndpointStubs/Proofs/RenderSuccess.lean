import EndpointStubs.Proofs.RegistryOrder
import EndpointStubs.Stub.Render

/-!
# When checking and rendering succeed

Rendering fails only on parameters without a name and on format arguments that
are no path variable, checking only on path variables without a name. A model
without these is checked and rendered.
-/

namespace EndpointStubs

theorem ok_bind {ε α β : Type} (a : α) (f : α → Except ε β) :
    ((.ok a : Except ε α) >>= f) = f a := rfl

theorem mapM_eq_ok_map {ε α β : Type} {f : α → Except ε β} {g : α → β} {l : List α}
    (h : ∀ a ∈ l, f a = .ok (g a)) : l.mapM f = .ok (l.map g) := by
  induction l with
  | nil => rfl
  | cons a l ih =>
    rw [List.mapM_cons, h a List.mem_cons_self, ih fun b hb ↦ h b (List.mem_cons_of_mem _ hb)]
    rfl

theorem exists_mapM_eq_ok {ε α β : Type} {f : α → Except ε β} {l : List α}
    (h : ∀ a ∈ l, ∃ b, f a = .ok b) : ∃ results, l.mapM f = .ok results := by
  induction l with
  | nil => exact ⟨[], rfl⟩
  | cons a l ih =>
    obtain ⟨b, hb⟩ := h a List.mem_cons_self
    obtain ⟨bs, hbs⟩ := ih fun c hc ↦ h c (List.mem_cons_of_mem _ hc)
    exact ⟨b :: bs, by rw [List.mapM_cons, hb, hbs]; rfl⟩

namespace Model

variable {model : Model}

theorem resource?_eq_some_iff {controller key : String} {resource : Resource} :
    model.resource? controller key = some resource ↔
      ∃ c, (controller, c) ∈ model.controllers.entries ∧ (key, resource) ∈ c.resources.entries := by
  simp only [resource?, controller?, Option.bind_eq_some_iff, Registry.get?_eq_some_iff]

theorem mem_endpoints_iff {key : String} {resource : Resource} :
    (key, resource) ∈ model.endpoints ↔
      ∃ controller, model.resource? controller key = some resource := by
  simp only [resource?_eq_some_iff, endpoints, Registry.values, List.mem_flatMap, List.mem_map]
  constructor
  · rintro ⟨c, ⟨⟨controller, d⟩, hd, rfl⟩, hmem⟩
    exact ⟨controller, d, hd, hmem⟩
  · rintro ⟨controller, c, hc, hmem⟩
    exact ⟨c, ⟨(controller, c), hc, rfl⟩, hmem⟩

/-- No endpoint key is used by two controllers. -/
def HasUniqueKeys (model : Model) : Prop :=
  ∀ controller other key resource resource', model.resource? controller key = some resource →
    model.resource? other key = some resource' → controller = other

theorem HasUniqueKeys.nodup_endpoints (h : model.HasUniqueKeys) :
    (model.endpoints.map Prod.fst).Nodup := by
  rw [endpoints, List.map_flatMap, Registry.values, List.flatMap_map, List.nodup_flatMap]
  refine ⟨fun entry _ ↦ entry.2.resources.nodup_keys, ?_⟩
  refine List.Pairwise.imp_of_mem ?_ (List.pairwise_map.1 model.controllers.nodup_keys)
  intro ⟨controller, c⟩ ⟨other, d⟩ hc hd hne key hkey hkey'
  obtain ⟨⟨first, resource⟩, hresource, hfirst⟩ := List.mem_map.1 hkey
  obtain ⟨⟨second, resource'⟩, hresource', hsecond⟩ := List.mem_map.1 hkey'
  have hkeys : second = first := hsecond.trans hfirst.symm
  rw [hkeys] at hresource'
  exact hne (h controller other first resource resource'
    (resource?_eq_some_iff.2 ⟨c, hc, hresource⟩) (resource?_eq_some_iff.2 ⟨d, hd, hresource'⟩))

end Model

/-- No path variable was reported without a name. -/
def Model.HasNamedVariables (model : Model) : Prop :=
  ∀ controller key resource, model.resource? controller key = some resource →
    resource.pathVariables.get? none = none

/-- The problems of an endpoint, if they can be listed. -/
def Resource.listedProblems (resource : Resource) : List Problem :=
  match resource.problems with
  | .ok problems => problems
  | .error _ => []

theorem Resource.problems_eq_listedProblems {resource : Resource}
    (h : resource.pathVariables.get? none = none) :
    resource.problems = .ok resource.listedProblems := by
  have hunplaced : resource.unplacedVariables.contains none = false := by
    rw [← Bool.not_eq_true, List.contains_iff_mem]
    intro hmem
    have hkey := (List.mem_filter.1 hmem).1
    rw [Registry.mem_keys_iff, h] at hkey
    cases hkey
  have hok : ∃ problems, resource.problems = .ok problems := by
    unfold Resource.problems
    cases resource.template with
    | none => exact ⟨_, rfl⟩
    | some template =>
      simp only [Resource.templateProblems, hunplaced, Bool.false_eq_true, if_false]
      exact ⟨_, rfl⟩
  obtain ⟨problems, hproblems⟩ := hok
  rw [Resource.listedProblems, hproblems]

namespace Model

variable {model : Model}

theorem problems_eq (h : model.HasNamedVariables) :
    model.problems = .ok (.ofList
      ((model.endpoints.map fun x ↦ (x.1, x.2.listedProblems)).filter fun x ↦ !x.2.isEmpty)) := by
  have heach : model.endpoints.mapM (fun x ↦ do return (x.1, ← x.2.problems)) =
      (.ok (model.endpoints.map fun x ↦ (x.1, x.2.listedProblems)) :
        Except CheckError (List (String × List Problem))) := by
    refine mapM_eq_ok_map ?_
    rintro ⟨key, resource⟩ hmem
    obtain ⟨controller, hresource⟩ := mem_endpoints_iff.1 hmem
    rw [Resource.problems_eq_listedProblems (h _ _ _ hresource)]
    rfl
  unfold problems
  rw [heach]
  rfl

/-- An endpoint is listed if it has problems, with these. -/
theorem get?_problems (hnamed : model.HasNamedVariables) (hunique : model.HasUniqueKeys)
    {problems : Registry String (List Problem)} (h : model.problems = .ok problems) (key : String)
    (found : List Problem) :
    problems.get? key = some found ↔ found ≠ [] ∧ ∃ controller resource,
      model.resource? controller key = some resource ∧ resource.listedProblems = found := by
  rw [problems_eq hnamed, Except.ok.injEq] at h
  subst h
  have hkeys : ((model.endpoints.map fun x ↦ (x.1, x.2.listedProblems)).map Prod.fst).Nodup := by
    rw [List.map_map]
    exact hunique.nodup_endpoints
  rw [Registry.get?_ofList_eq_some_iff (hkeys.sublist (List.filter_sublist.map _)),
    List.mem_filter, List.mem_map]
  constructor
  · rintro ⟨⟨⟨_, resource⟩, hmem, heq⟩, hne⟩
    cases heq
    obtain ⟨controller, hresource⟩ := mem_endpoints_iff.1 hmem
    exact ⟨by simpa using hne, controller, resource, hresource, rfl⟩
  · rintro ⟨hne, controller, resource, hresource, rfl⟩
    exact ⟨⟨(key, resource), mem_endpoints_iff.2 ⟨controller, hresource⟩, rfl⟩, by simpa using hne⟩

end Model

/-- Every format argument is a path variable with a name, and every query argument has a name. -/
structure Resource.Renderable (resource : Resource) : Prop where
  formatArguments : ∀ name ∈ resource.formatArguments,
    name ≠ none ∧ (resource.pathVariables.get? name).isSome
  arguments : resource.arguments.get? none = none

/-- Each path variable gets a parameter where it is first used. -/
theorem pathParameters_eq {registry : Registry (Option String) Argument}
    {names : List (Option String)} (h : ∀ name ∈ names, (registry.get? name).isSome)
    (seen : List (Option String)) :
    pathParameters registry seen names =
      .ok ((names.filter (!seen.contains ·)).eraseDups.map fun name ↦
        parameterText ((registry.get? name).bind (·.type)) name) := by
  induction names generalizing seen with
  | nil => rfl
  | cons name names ih =>
    obtain ⟨hname, hnames⟩ := List.forall_mem_cons.1 h
    obtain ⟨entry, hentry⟩ := Option.isSome_iff_exists.1 hname
    simp only [pathParameters, hentry]
    by_cases hseen : seen.contains name = true
    · rw [if_pos hseen, ih hnames, List.filter_cons_of_neg (by rw [hseen]; nofun)]
    · have hrest : (names.filter (!(name :: seen).contains ·)) =
          (names.filter (!seen.contains ·)).filter (!· == name) := by
        rw [List.filter_filter]
        refine List.filter_congr fun other _ ↦ ?_
        rw [List.contains_cons, Bool.not_or]
      have hnew : (!seen.contains name) = true := by rw [Bool.eq_false_iff.2 hseen]; rfl
      rw [if_neg hseen, ih hnames, List.filter_cons, if_pos hnew, List.eraseDups_cons, ← hrest,
        List.map_cons, hentry]
      rfl

theorem ne_none_of_mem_entries {arguments : Registry (Option String) Argument}
    (h : arguments.get? none = none) : ∀ entry ∈ arguments.entries, entry.1 ≠ none := by
  rintro ⟨name, argument⟩ hentry rfl
  rw [Registry.get?_eq_some_iff.2 hentry] at h
  cases h

/-- Query arguments that have names can be sorted. -/
theorem sortedArguments_eq {arguments : Registry (Option String) Argument}
    (h : arguments.get? none = none) :
    sortedArguments arguments =
      .ok (arguments.entries.mergeSort fun a b ↦ decide (nameText a.1 ≤ nameText b.1)) := by
  refine if_neg ?_
  rintro ⟨-, hmem⟩
  obtain ⟨entry, hentry, hnone⟩ := List.mem_map.1 ((arguments.contains_iff_mem_keys none).1 hmem)
  exact ne_none_of_mem_entries h entry hentry hnone

theorem exists_urlText {names : List (Option String)} (h : ∀ name ∈ names, name ≠ none)
    (constant : String) : ∃ url, urlText constant names = .ok url := by
  have hnone : names.contains none = false := by
    rw [← Bool.not_eq_true, List.contains_iff_mem]
    exact fun hmem ↦ h none hmem rfl
  unfold urlText
  rw [hnone]
  split
  · exact ⟨constant, rfl⟩
  · exact ⟨_, rfl⟩

theorem exists_queryLine {name : Option String} (h : name ≠ none) (argument : Argument) :
    ∃ line, queryLine name argument = .ok line := by
  obtain ⟨text, rfl⟩ := Option.ne_none_iff_exists'.1 h
  unfold queryLine
  cases argument.givenName.filter (!·.isEmpty) with
  | none => exact ⟨_, rfl⟩
  | some given => exact ⟨_, rfl⟩

theorem StubEndpoint.exists_methodLines {endpoint : StubEndpoint}
    (h : endpoint.resource.Renderable) : ∃ lines, endpoint.methodLines = .ok lines := by
  have hparameters := pathParameters_eq (fun name hname ↦ (h.formatArguments name hname).2) []
  obtain ⟨sorted, hsorted, hnamed⟩ : ∃ sorted,
      sortedArguments endpoint.resource.arguments = .ok sorted ∧
        ∀ entry ∈ sorted, entry.1 ≠ none :=
    ⟨_, sortedArguments_eq h.arguments, fun entry hentry ↦
      ne_none_of_mem_entries h.arguments entry (List.mem_mergeSort.1 hentry)⟩
  obtain ⟨url, hurl⟩ := exists_urlText (fun name hname ↦ (h.formatArguments name hname).1)
    endpoint.constant
  obtain ⟨queryLines, hqueryLines⟩ := exists_mapM_eq_ok (l := sorted)
    (f := fun x ↦ queryLine x.1 x.2) fun entry hentry ↦
      exists_queryLine (hnamed entry hentry) entry.2
  unfold StubEndpoint.methodLines
  simp only [hparameters, hsorted, hurl, ok_bind, hqueryLines]
  exact ⟨_, rfl⟩

theorem Controller.numberEndpoints_resource_mem {endpoints : List (String × Resource)}
    {used : List String} {endpoint : StubEndpoint}
    (h : endpoint ∈ Controller.numberEndpoints used endpoints) :
    ∃ key, (key, endpoint.resource) ∈ endpoints := by
  induction endpoints generalizing used with
  | nil => cases h
  | cons entry rest ih =>
    rw [Controller.numberEndpoints.eq_def] at h
    dsimp only at h
    split at h
    · rcases List.mem_cons.1 h with rfl | h
      · exact ⟨entry.1, List.mem_cons_self⟩
      · obtain ⟨key, hkey⟩ := ih h
        exact ⟨key, List.mem_cons_of_mem _ hkey⟩
    · obtain ⟨key, hkey⟩ := ih h
      exact ⟨key, List.mem_cons_of_mem _ hkey⟩

theorem Controller.exists_stubText (controller : Controller)
    (h : ∀ entry ∈ controller.resources.entries, entry.2.Renderable) (suffixes : Suffixes)
    (packageName simpleName : String) :
    ∃ text, controller.stubText suffixes packageName simpleName = .ok text := by
  obtain ⟨methods, hmethods⟩ := exists_mapM_eq_ok (l := controller.stubEndpoints)
    (f := StubEndpoint.methodLines) fun endpoint hendpoint ↦ by
      obtain ⟨key, hkey⟩ := Controller.numberEndpoints_resource_mem hendpoint
      exact StubEndpoint.exists_methodLines (h _ (List.mem_mergeSort.1 hkey))
  unfold Controller.stubText
  rw [hmethods]
  exact ⟨_, rfl⟩

/-- A model of renderable endpoints is rendered. -/
theorem Model.exists_stubFiles {model : Model}
    (h : ∀ controller key resource, model.resource? controller key = some resource →
      resource.Renderable) (suffixes : Suffixes) :
    ∃ files, model.stubFiles suffixes = .ok files := by
  obtain ⟨files, hfiles⟩ := exists_mapM_eq_ok (l := model.sortedControllers)
    (f := fun x ↦ Model.stubFile suffixes x.1 x.2) fun entry hentry ↦ by
      rw [Model.sortedControllers, List.mem_mergeSort] at hentry
      obtain ⟨text, htext⟩ := Controller.exists_stubText entry.2
        (fun resource hresource ↦ h entry.1 resource.1 resource.2
          (Model.resource?_eq_some_iff.2 ⟨entry.2, hentry, hresource⟩)) suffixes
        (controllerName entry.1 entry.2.packageName).1
        (controllerName entry.1 entry.2.packageName).2
      simp only [Model.stubFile, htext, ok_bind]
      exact ⟨_, rfl⟩
  unfold Model.stubFiles
  rw [hfiles]
  exact ⟨_, rfl⟩

end EndpointStubs
