import EndpointStubs.Model.Fold
import EndpointStubs.Proofs.JoinedTexts
import EndpointStubs.Proofs.RegistryGrouping
import EndpointStubs.Proofs.TextRuns
import Mathlib.Data.List.DropRight

/-!
# What folding leaves behind

The model that a list of facts builds, described without folding: each field is
read off the facts that are about it, by its own rule. The last route decides
the request method, the last route that has a template decides the template,
parameters are listed in the order of their first fact with what their last fact
says, and so on. Folding the facts one after the other gives exactly this model,
whatever they contradict.
-/

namespace EndpointStubs

namespace Fact

/-- The request method of a route. -/
def routeMethod? (fact : Fact) : Option HttpMethod :=
  match fact.kind with
  | .getRoute => some .get
  | .postRoute => some .post
  | _ => none

def isRoute (fact : Fact) : Bool :=
  fact.routeMethod?.isSome

/-- The method key of the endpoint that a route or parameter fact is about. -/
def endpointKey? (fact : Fact) : Option String :=
  match fact.kind with
  | .controller | .unknown => none
  | _ => fact.methodKey

/-- The controller that a fact says something about. Facts of unknown kind, and route and
parameter facts without a method, say nothing. -/
def contributesTo? (fact : Fact) : Option String :=
  if fact.kind = .controller ∨ fact.endpointKey?.isSome then some fact.controller else none

section Addressed

variable {fact : Fact} {key controller : String}

theorem endpointKey?_eq_none (h : fact.kind = .controller) : fact.endpointKey? = none := by
  rw [endpointKey?, h]

theorem contributesTo?_of_kind (h : fact.kind = .controller) :
    fact.contributesTo? = some fact.controller :=
  if_pos (.inl h)

theorem contributesTo?_of_endpointKey? (h : fact.endpointKey? = some key) :
    fact.contributesTo? = some fact.controller := by
  rw [contributesTo?, h]
  exact if_pos (.inr rfl)

theorem contributesTo?_eq_none (hkind : fact.kind ≠ .controller)
    (hkey : fact.endpointKey? = none) : fact.contributesTo? = none := by
  rw [contributesTo?, hkey]
  exact if_neg (by simp [hkind])

theorem controller_of_contributesTo? (h : fact.contributesTo? = some controller) :
    fact.controller = controller :=
  Option.some.inj (Option.ite_none_right_eq_some.1 h).2

end Addressed

/-- The parameter that a fact of the given kind is about. -/
def parameterOf? (kind : FactKind) (fact : Fact) : Option (Option String) :=
  if fact.kind = kind then some fact.name else none

/-- What a fact says about its parameter. -/
def argument (fact : Fact) : Argument :=
  ⟨fact.name, fact.typeText, fact.givenName⟩

/-- What a fact says about the request body. -/
def body (fact : Fact) : Argument :=
  { name := fact.name, type := fact.typeText }

/-- The first path of a fact, or else its first value. -/
def template? (fact : Fact) : Option String :=
  match fact.path, fact.value with
  | template :: _, _ => some template
  | [], template :: _ => some template
  | [], [] => none

/-- The method name with its first character in upper case. -/
def capitalizedName? (fact : Fact) : Option String :=
  fact.methodName.map fun name ↦
    .ofList ((name.toList.take 1).flatMap Text.upperChar ++ name.toList.drop 1)

end Fact

/-- A line without what stands from its first opening parenthesis through its last closing one, if
that comes behind it. -/
def withoutGroup (line : List Char) : List Char :=
  if ['(', ')'].Sublist line then
    line.takeWhile (· != '(') ++ line.rtakeWhile (· != ')')
  else line

/-- The type, on each line without what is in parentheses. -/
def Fact.ungroupedType? (fact : Fact) : Option String :=
  fact.typeText.map fun type ↦
    .ofList (['\n'].intercalate ((type.toList.splitOn '\n').map withoutGroup))

/-! ## The description -/

/-- What the last item that has it says. -/
def lastSome {ι α : Type} (f : ι → Option α) (items : List ι) : Option α :=
  (items.filterMap f).getLast?

/-- What the last of the facts about a parameter says. -/
def Argument.summary (facts : List Fact) : Argument :=
  (lastSome (fun fact ↦ some fact.argument) facts).getD {}

/-- The endpoint that is described by the facts about it. -/
def Resource.summary (facts : List Fact) : Resource :=
  let routes := facts.filter Fact.isRoute
  let bodies := facts.filter (·.kind = .requestBody)
  { httpMethod := lastSome Fact.routeMethod? routes
    template := lastSome Fact.template? routes
    methodName := lastSome Fact.capitalizedName? routes
    responseType := lastSome Fact.ungroupedType? routes
    hasPathVariable := facts.any fun fact ↦ fact.kind = .pathVariable || fact.kind = .requestBody
    arguments := .grouped (Fact.parameterOf? .requestParam) Argument.summary facts
    pathVariables := .grouped (Fact.parameterOf? .pathVariable) Argument.summary facts
    requestBody := lastSome (fun fact ↦ some fact.body) bodies
    formatArguments := [] }

/-- The controller that is described by the facts about it and its endpoints. -/
def Controller.summary (facts : List Fact) : Controller :=
  let own := facts.filter (·.kind = .controller)
  { packageName := lastSome Fact.packageName own
    imports := (own.flatMap Fact.imports).eraseDups
    resources := .grouped Fact.endpointKey? Resource.summary facts }

/-- The model that is described by a list of facts. -/
def Model.summary (facts : List Fact) : Model :=
  ⟨.grouped Fact.contributesTo? Controller.summary facts⟩

/-- Some parenthesis is closed behind the first one that is opened. -/
theorem parentheses_sublist_iff (line : List Char) :
    ['(', ')'].Sublist line ↔ ')' ∈ (line.dropWhile (· != '(')).tail := by
  induction line with
  | nil => simp
  | cons c rest ih =>
    by_cases hc : c = '('
    · subst hc
      rw [List.cons_sublist_cons, List.singleton_sublist, List.dropWhile_cons_of_neg (by decide),
        List.tail_cons]
    · have hopen : ¬∃ inside, ['(', ')'] = c :: inside ∧ inside.Sublist rest := by
        rintro ⟨_, heq, -⟩
        exact hc (List.cons.inj heq).1.symm
      rw [List.sublist_cons_iff, or_iff_left hopen, ih,
        List.dropWhile_cons, if_pos (bne_iff_ne.2 hc)]

theorem rtakeWhile_append_of_mem {c : Char} {xs ys : List Char} (h : c ∈ ys) :
    (xs ++ ys).rtakeWhile (· != c) = ys.rtakeWhile (· != c) := by
  have hstop : (ys.reverse.takeWhile (· != c)).length ≠ ys.reverse.length := fun hlength ↦ by
    have hstart : ys.reverse.takeWhile (· != c) <+: ys.reverse := List.takeWhile_prefix _
    have hall := List.takeWhile_eq_self_iff.1 (hstart.eq_of_length hlength)
    exact bne_iff_ne.1 (hall c (List.mem_reverse.2 h)) rfl
  rw [List.rtakeWhile, List.reverse_append, List.takeWhile_append, if_neg hstop, List.rtakeWhile]

theorem dropGroup_eq (line : List Char) : dropGroup line = withoutGroup line := by
  have hsublist := parentheses_sublist_iff line
  have hline : line.takeWhile (· != '(') ++ line.dropWhile (· != '(') = line :=
    List.takeWhile_append_dropWhile
  rw [dropGroup, withoutGroup]
  split
  · rename_i rest hrest
    rw [hrest, List.tail_cons] at hsublist
    by_cases hclose : ')' ∈ rest
    · have hlast : line.rtakeWhile (· != ')') = rest.rtakeWhile (· != ')') := by
        rw [← hline, hrest, List.append_cons, rtakeWhile_append_of_mem hclose]
      rw [if_pos (List.contains_iff_mem.2 hclose), if_pos (hsublist.2 hclose), hlast]
      rfl
    · rw [if_neg (mt List.contains_iff_mem.1 hclose), if_neg (mt hsublist.1 hclose)]
  · rename_i hnone
    have hopen : '(' ∉ line := fun hmem ↦ hnone _ (Text.dropWhile_ne_of_mem hmem)
    rw [if_neg fun h ↦ hopen (h.subset List.mem_cons_self)]

namespace Fact

theorem template?_eq (fact : Fact) : fact.template? = selectTemplate fact.path fact.value := by
  rw [template?, selectTemplate]
  cases fact.path <;> cases fact.value <;> rfl

theorem capitalizedName?_eq (fact : Fact) :
    fact.capitalizedName? = fact.methodName.map Text.capitalize := by
  refine congrArg (fact.methodName.map ·) (funext fun name ↦ ?_)
  rw [Text.capitalize]
  cases name.toList with
  | nil => rfl
  | cons c rest => simp

theorem ungroupedType?_eq (fact : Fact) : fact.ungroupedType? = fact.typeText.map cleanType := by
  refine congrArg (fact.typeText.map ·) (funext fun type ↦ ?_)
  rw [cleanType, splitAt_eq_splitOn, funext dropGroup_eq]

end Fact

section LastSome

variable {ι α : Type} {f : ι → Option α} {items : List ι} {a : α}

theorem lastSome_concat (f : ι → Option α) (items : List ι) (item : ι) :
    lastSome f (items ++ [item]) = (f item <|> lastSome f items) := by
  rw [lastSome, lastSome, List.filterMap_append, List.getLast?_append]
  cases h : f item <;> simp [h]

theorem lastSome_eq_none_iff : lastSome f items = none ↔ ∀ item ∈ items, f item = none := by
  rw [lastSome, List.getLast?_eq_none_iff, List.filterMap_eq_nil_iff]

theorem exists_of_lastSome_eq_some (h : lastSome f items = some a) :
    ∃ item ∈ items, f item = some a :=
  List.mem_filterMap.1 (List.mem_of_getLast? h)

theorem lastSome_eq_of_forall (hne : items ≠ []) (h : ∀ item ∈ items, f item = some a) :
    lastSome f items = some a := by
  rcases List.eq_nil_or_concat items with hnil | ⟨before, last, rfl⟩
  · exact absurd hnil hne
  · rw [List.concat_eq_append] at h ⊢
    rw [lastSome_concat, h last (List.mem_append_right _ (List.mem_singleton_self _))]
    rfl

end LastSome

/-- What a fact about this endpoint makes of it. -/
def Resource.afterFact (fact : Fact) (resource : Resource) : Resource :=
  match fact.kind with
  | .getRoute => resource.withRoute .get fact
  | .postRoute => resource.withRoute .post fact
  | .requestParam => resource.withArgument fact
  | .pathVariable => resource.withPathVariable fact
  | .requestBody => resource.withBody fact
  | .controller | .unknown => resource

/-- What a fact about this controller or one of its endpoints makes of it. -/
def Controller.afterFact (fact : Fact) (controller : Controller) : Controller :=
  match fact.kind, fact.endpointKey? with
  | .controller, _ => controller.withFact fact
  | _, none => controller
  | _, some key =>
    { controller with resources := controller.resources.update key {} (·.afterFact fact) }

theorem Controller.afterFact_of_endpointKey?_eq_none {fact : Fact} (h : fact.kind ≠ .controller)
    (hkey : fact.endpointKey? = none) (controller : Controller) :
    controller.afterFact fact = controller := by
  rw [afterFact]
  split <;> simp_all

theorem Controller.afterFact_of_endpointKey?_eq_some {fact : Fact} {key : String}
    (h : fact.kind ≠ .controller) (hkey : fact.endpointKey? = some key)
    (controller : Controller) :
    controller.afterFact fact =
      { controller with resources := controller.resources.update key {} (·.afterFact fact) } := by
  rw [afterFact]
  split <;> simp_all

theorem Model.fold_of_contributesTo?_eq_none {fact : Fact} (h : fact.contributesTo? = none)
    (model : Model) : model.fold fact = model := by
  cases hkind : fact.kind <;> cases hkey : fact.methodKey <;>
    simp_all [Fact.contributesTo?, Fact.endpointKey?, Model.fold, Model.foldReporting]

theorem Model.fold_of_contributesTo?_eq_some {fact : Fact} {controller : String}
    (h : fact.contributesTo? = some controller) (model : Model) :
    model.fold fact = model.updateController controller (·.afterFact fact) := by
  cases hkind : fact.kind <;> cases hkey : fact.methodKey <;>
    simp_all [Fact.contributesTo?, Fact.endpointKey?, Model.fold, Model.foldReporting,
      Model.updateResource, Controller.afterFact, Resource.afterFact]

theorem Registry.update_const {κ α : Type} [DecidableEq κ] (r : Registry κ α) (key : κ)
    (fresh a : α) : (r.update key fresh fun _ ↦ a) = r.insert key a := by
  apply Registry.ext_get?
  · rw [Registry.insert, Registry.keys_update, Registry.keys_update]
  · intro other
    rw [Registry.get?_update, Registry.get?_insert]

/-- The registry of the parameters of one kind after one more fact. -/
theorem grouped_parameterOf?_concat (kind : FactKind) (facts : List Fact) (fact : Fact) :
    Registry.grouped (Fact.parameterOf? kind) Argument.summary (facts ++ [fact]) =
      if fact.kind = kind then
        (Registry.grouped (Fact.parameterOf? kind) Argument.summary facts).insert fact.name
          fact.argument
      else Registry.grouped (Fact.parameterOf? kind) Argument.summary facts := by
  split
  · rename_i hkind
    have hname : fact.parameterOf? kind = some fact.name := if_pos hkind
    have hstep (group : List Fact) : Argument.summary (group ++ [fact]) = fact.argument := by
      rw [Argument.summary, lastSome_concat]
      rfl
    rw [Registry.grouped_concat_of_some hname (fun _ ↦ fact.argument) hstep,
      Registry.update_const]
  · rename_i hkind
    exact Registry.grouped_concat_of_none (if_neg hkind)

theorem Resource.summary_nil : Resource.summary [] = {} := rfl

theorem Resource.summary_concat (facts : List Fact) (fact : Fact) :
    Resource.summary (facts ++ [fact]) = (Resource.summary facts).afterFact fact := by
  cases hkind : fact.kind <;>
    simp [Resource.summary, Resource.afterFact, Resource.withRoute, Resource.withArgument,
      Resource.withPathVariable, Resource.withBody, grouped_parameterOf?_concat, Fact.isRoute,
      Fact.routeMethod?, Fact.argument, Fact.body, Fact.template?_eq, Fact.capitalizedName?_eq,
      Fact.ungroupedType?_eq, hkind, lastSome_concat]

theorem Controller.summary_nil : Controller.summary [] = {} := rfl

theorem Controller.summary_concat (facts : List Fact) (fact : Fact) :
    Controller.summary (facts ++ [fact]) = (Controller.summary facts).afterFact fact := by
  by_cases hkind : fact.kind = .controller
  · have hresources : Registry.grouped Fact.endpointKey? Resource.summary (facts ++ [fact]) = _ :=
      Registry.grouped_concat_of_none (Fact.endpointKey?_eq_none hkind)
    have himports := foldl_addNew ((facts.filter (·.kind = .controller)).flatMap Fact.imports)
      fact.imports
    simpa [Controller.summary, Controller.afterFact, Controller.withFact, hkind, hresources,
      lastSome_concat] using himports.symm
  · cases hkey : fact.endpointKey? with
    | none =>
      have hresources : Registry.grouped Fact.endpointKey? Resource.summary (facts ++ [fact]) = _ :=
        Registry.grouped_concat_of_none hkey
      rw [Controller.afterFact_of_endpointKey?_eq_none hkind hkey]
      simp [Controller.summary, hkind, hresources]
    | some key =>
      have hresources : Registry.grouped Fact.endpointKey? Resource.summary (facts ++ [fact]) = _ :=
        Registry.grouped_concat_of_some hkey (Resource.afterFact fact) fun group ↦
          Resource.summary_concat group fact
      rw [Controller.afterFact_of_endpointKey?_eq_some hkind hkey]
      simp [Controller.summary, hkind, hresources, Resource.summary_nil]

theorem Model.summary_concat (facts : List Fact) (fact : Fact) :
    Model.summary (facts ++ [fact]) = (Model.summary facts).fold fact := by
  cases h : fact.contributesTo? with
  | none =>
    rw [Model.fold_of_contributesTo?_eq_none h, Model.summary,
      Registry.grouped_concat_of_none h, Model.summary]
  | some controller =>
    rw [Model.fold_of_contributesTo?_eq_some h, Model.summary,
      Registry.grouped_concat_of_some h (Controller.afterFact fact) fun group ↦
        Controller.summary_concat group fact, Controller.summary_nil]
    rfl

/-- Folding on from a described model, the facts that were folded before are described with the
new ones. -/
theorem Model.foldAll_summary (before facts : List Fact) :
    (Model.summary before).foldAll facts = Model.summary (before ++ facts) := by
  induction facts generalizing before with
  | nil => rw [List.append_nil, foldAll, List.foldl_nil]
  | cons fact facts ih =>
    have hnext := ih (before ++ [fact])
    rw [summary_concat, List.append_assoc, List.singleton_append] at hnext
    rw [← hnext, foldAll, foldAll, List.foldl_cons]

/-- Folding any facts into the empty model gives the model that they describe. -/
theorem Model.foldAll_eq_summary (facts : List Fact) :
    (∅ : Model).foldAll facts = Model.summary facts :=
  foldAll_summary [] facts

end EndpointStubs
