import EndpointStubs.Proofs.EndpointFacts

/-!
# Models step by step

A model is changed in two ways only: a fact is folded into it, or its templates
are normalized, at any time and in either order of the variables. What the
renderer takes for granted about a model holds of the empty one and is kept by
each change: parameters stand under their own names, an endpoint that has
anything of a route has a request method, format arguments are path variables.
And a model only ever grows. Nothing is said here about whether the templates
still have placeholders: facts that come after normalizing bring new ones.
-/

namespace EndpointStubs

/-- One change of a model. -/
inductive ModelStep where
  | fold (fact : Fact)
  | normalize (order : VariableOrder)

def Model.step (model : Model) : ModelStep → Model
  | .fold fact => model.fold fact
  | .normalize order => model.normalize order

def Model.run (model : Model) (steps : List ModelStep) : Model :=
  steps.foldl step model

/-- A round folds all facts and normalizes once. -/
theorem roundModel_eq_run (order : VariableOrder) (facts : List Fact) :
    roundModel order facts = (∅ : Model).run (facts.map .fold ++ [.normalize order]) := by
  rw [Model.run, List.foldl_append, List.foldl_map]
  rfl

namespace Registry

variable {κ α : Type} [DecidableEq κ]

/-- All entries have a property. -/
def Forall (P : α → Prop) (r : Registry κ α) : Prop :=
  ∀ key a, r.get? key = some a → P a

/-- Keys keep their places, new ones come after them, and entries change as allowed. -/
structure GrowsTo (R : α → α → Prop) (r s : Registry κ α) : Prop where
  keys : r.keys <+: s.keys
  entry : ∀ key a, r.get? key = some a → ∃ b, s.get? key = some b ∧ R a b

variable {P : α → Prop} {R : α → α → Prop} {r s t : Registry κ α} {key : κ} {fresh : α}
  {f : α → α}

theorem forall_empty : (∅ : Registry κ α).Forall P :=
  nofun

theorem Forall.update (h : r.Forall P) (hfresh : P fresh) (hf : ∀ a, P a → P (f a)) :
    (r.update key fresh f).Forall P := by
  intro k a hk
  rw [get?_update] at hk
  split at hk
  · cases hk
    cases hget : r.get? key with
    | none => exact hf fresh hfresh
    | some b => exact hf b (h key b hget)
  · exact h k a hk

theorem Forall.mapValues (h : r.Forall P) (hf : ∀ a, P a → P (f a)) :
    (r.mapValues f).Forall P := by
  intro k a hk
  rw [get?_mapValues, Option.map_eq_some_iff] at hk
  obtain ⟨b, hb, rfl⟩ := hk
  exact hf b (h k b hb)

theorem growsTo_refl (hrefl : ∀ a, R a a) (r : Registry κ α) : r.GrowsTo R r :=
  ⟨List.prefix_rfl, fun _ a h ↦ ⟨a, h, hrefl a⟩⟩

theorem GrowsTo.trans (htrans : ∀ {a b c}, R a b → R b c → R a c) (h : r.GrowsTo R s)
    (h' : s.GrowsTo R t) : r.GrowsTo R t := by
  refine ⟨h.keys.trans h'.keys, fun key a ha ↦ ?_⟩
  obtain ⟨b, hb, hab⟩ := h.entry key a ha
  obtain ⟨c, hc, hbc⟩ := h'.entry key b hb
  exact ⟨c, hc, htrans hab hbc⟩

theorem keys_prefix_keys_update : r.keys <+: (r.update key fresh f).keys := by
  rw [keys_update]
  split
  · exact List.prefix_rfl
  · exact List.prefix_append _ _

theorem growsTo_update (hrefl : ∀ a, R a a) (hf : ∀ a, R a (f a)) :
    r.GrowsTo R (r.update key fresh f) := by
  refine ⟨keys_prefix_keys_update, fun k a ha ↦ ?_⟩
  rw [get?_update]
  split
  · rename_i hk
    rw [← hk, ha]
    exact ⟨f a, rfl, hf a⟩
  · exact ⟨a, ha, hrefl a⟩

theorem growsTo_mapValues (hf : ∀ a, R a (f a)) : r.GrowsTo R (r.mapValues f) := by
  refine ⟨(keys_mapValues f r).symm ▸ List.prefix_rfl, fun k a ha ↦ ⟨f a, ?_, hf a⟩⟩
  rw [get?_mapValues, ha]
  rfl

theorem mem_keys_insert {a : α} {k : κ} :
    k ∈ (r.insert key a).keys ↔ k = key ∨ k ∈ r.keys := by
  rw [mem_keys_iff, get?_insert, mem_keys_iff]
  by_cases hk : k = key <;> simp [hk]

theorem isEmpty_insert {a : α} : (r.insert key a).isEmpty = false := by
  have hmem : key ∈ (r.insert key a).keys := mem_keys_insert.2 (.inl rfl)
  rw [isEmpty, List.isEmpty_eq_false_iff]
  intro hnil
  rw [keys, hnil] at hmem
  cases hmem

/-- Every parameter stands under its own name. -/
def IsNamedByKeys (r : Registry (Option String) Argument) : Prop :=
  ∀ name argument, r.get? name = some argument → argument.name = name

theorem IsNamedByKeys.insert {r : Registry (Option String) Argument} (h : r.IsNamedByKeys)
    (argument : Argument) : (r.insert argument.name argument).IsNamedByKeys := by
  intro name other hget
  rw [get?_insert] at hget
  split at hget
  · rename_i hname
    cases hget
    exact hname.symm
  · exact h name other hget

end Registry

structure Resource.Consistent (resource : Resource) : Prop where
  arguments : resource.arguments.IsNamedByKeys
  pathVariables : resource.pathVariables.IsNamedByKeys
  hasPathVariable : resource.hasPathVariable = true ↔
    resource.pathVariables.isEmpty = false ∨ resource.requestBody.isSome
  httpMethod : resource.template.isSome ∨ resource.methodName.isSome ∨
    resource.responseType.isSome → resource.httpMethod.isSome
  formatArguments : ∀ name ∈ resource.formatArguments, name ∈ resource.pathVariables.keys

structure Controller.Consistent (controller : Controller) : Prop where
  imports : controller.imports.Nodup
  resources : controller.resources.Forall Resource.Consistent

def Model.Consistent (model : Model) : Prop :=
  model.controllers.Forall Controller.Consistent

/-- No parameter is removed, nor is the request body. -/
structure Resource.GrowsTo (before after : Resource) : Prop where
  arguments : before.arguments.keys <+: after.arguments.keys
  pathVariables : before.pathVariables.keys <+: after.pathVariables.keys
  requestBody : before.requestBody.isSome → after.requestBody.isSome

/-- No import is removed, and no endpoint or anything of one. -/
structure Controller.GrowsTo (before after : Controller) : Prop where
  imports : before.imports <+: after.imports
  resources : before.resources.GrowsTo Resource.GrowsTo after.resources

/-- No controller is removed, nor anything of one. -/
def Model.GrowsTo (before after : Model) : Prop :=
  before.controllers.GrowsTo Controller.GrowsTo after.controllers

namespace Resource

variable {resource : Resource}

theorem consistent_empty : Consistent {} where
  arguments := nofun
  pathVariables := nofun
  hasPathVariable := by decide
  httpMethod := by decide
  formatArguments := nofun

namespace Consistent

variable (h : resource.Consistent)

include h

theorem withRoute (method : HttpMethod) (fact : Fact) :
    (resource.withRoute method fact).Consistent where
  arguments := h.arguments
  pathVariables := h.pathVariables
  hasPathVariable := h.hasPathVariable
  httpMethod _ := rfl
  formatArguments := h.formatArguments

theorem withArgument (fact : Fact) : (resource.withArgument fact).Consistent where
  arguments := h.arguments.insert fact.argument
  pathVariables := h.pathVariables
  hasPathVariable := h.hasPathVariable
  httpMethod := h.httpMethod
  formatArguments := h.formatArguments

theorem withPathVariable (fact : Fact) : (resource.withPathVariable fact).Consistent where
  arguments := h.arguments
  pathVariables := h.pathVariables.insert fact.argument
  hasPathVariable := iff_of_true rfl (.inl Registry.isEmpty_insert)
  httpMethod := h.httpMethod
  formatArguments name hname := Registry.mem_keys_insert.2 (.inr (h.formatArguments name hname))

theorem withBody (fact : Fact) : (resource.withBody fact).Consistent where
  arguments := h.arguments
  pathVariables := h.pathVariables
  hasPathVariable := iff_of_true rfl (.inr rfl)
  httpMethod := h.httpMethod
  formatArguments := h.formatArguments

/-- Folding a fact keeps an endpoint consistent, whatever the fact contradicts. -/
theorem afterFact (fact : Fact) : (resource.afterFact fact).Consistent := by
  unfold Resource.afterFact
  split
  · exact h.withRoute .get fact
  · exact h.withRoute .post fact
  · exact h.withArgument fact
  · exact h.withPathVariable fact
  · exact h.withBody fact
  · exact h
  · exact h

/-- Normalizing keeps an endpoint consistent, also if it has been normalized before. -/
theorem normalize (order : VariableOrder) : (resource.normalize order).Consistent := by
  have hformat : ∀ name ∈ (resource.normalize order).formatArguments,
      name ∈ resource.pathVariables.keys := by
    intro name hname
    rw [Registry.mem_keys_iff]
    refine isSome_get?_of_mem_formatArguments h.pathVariables (fun earlier hearlier ↦ ?_) hname
    rw [← Registry.mem_keys_iff]
    exact h.formatArguments earlier hearlier
  have htemplate : (resource.normalize order).template.isSome = resource.template.isSome := by
    unfold Resource.normalize
    split
    · rfl
    · rename_i heq
      split <;> simp [heq]
  obtain ⟨template, formatArguments, heq⟩ := exists_normalize_eq order resource
  rw [heq] at hformat htemplate ⊢
  refine { h with httpMethod := ?_, formatArguments := hformat }
  have hmethod := h.httpMethod
  rwa [← htemplate] at hmethod

end Consistent

theorem growsTo_refl (resource : Resource) : resource.GrowsTo resource :=
  ⟨List.prefix_rfl, List.prefix_rfl, id⟩

theorem GrowsTo.trans {before middle after : Resource} (h : before.GrowsTo middle)
    (h' : middle.GrowsTo after) : before.GrowsTo after :=
  ⟨h.arguments.trans h'.arguments, h.pathVariables.trans h'.pathVariables,
    h'.requestBody ∘ h.requestBody⟩

theorem growsTo_afterFact (fact : Fact) (resource : Resource) :
    resource.GrowsTo (resource.afterFact fact) := by
  have hrefl := growsTo_refl resource
  unfold afterFact
  split
  · exact { hrefl with }
  · exact { hrefl with }
  · exact { hrefl with arguments := Registry.keys_prefix_keys_update }
  · exact { hrefl with pathVariables := Registry.keys_prefix_keys_update }
  · exact { hrefl with requestBody := fun _ ↦ rfl }
  · exact hrefl
  · exact hrefl

theorem growsTo_normalize (order : VariableOrder) (resource : Resource) :
    resource.GrowsTo (resource.normalize order) := by
  obtain ⟨template, formatArguments, heq⟩ := exists_normalize_eq order resource
  rw [heq]
  exact { growsTo_refl resource with }

end Resource

/-- Elements that are not yet there are added behind those that are. -/
theorem prefix_foldl_addNew {κ : Type} [DecidableEq κ] (known later : List κ) :
    known <+: later.foldl (fun known k ↦ if known.contains k then known else known ++ [k]) known := by
  induction later generalizing known with
  | nil => exact List.prefix_rfl
  | cons k later ih =>
    rw [List.foldl_cons]
    split
    · exact ih known
    · exact (List.prefix_append known [k]).trans (ih _)

theorem nodup_foldl_addNew {κ : Type} [DecidableEq κ] {known : List κ} (h : known.Nodup)
    (later : List κ) :
    (later.foldl (fun known k ↦ if known.contains k then known else known ++ [k]) known).Nodup := by
  induction later generalizing known with
  | nil => exact h
  | cons k later ih =>
    rw [List.foldl_cons]
    split
    · exact ih h
    · rename_i hk
      rw [List.contains_iff_mem] at hk
      refine ih (List.nodup_append.2 ⟨h, List.nodup_singleton k, ?_⟩)
      rintro a ha b hb rfl
      exact hk (List.mem_singleton.1 hb ▸ ha)

theorem mem_foldl_addNew {κ : Type} [DecidableEq κ] {known later : List κ} {k : κ} :
    k ∈ later.foldl (fun known k ↦ if known.contains k then known else known ++ [k]) known ↔
      k ∈ known ∨ k ∈ later := by
  induction later generalizing known with
  | nil => simp
  | cons first later ih =>
    rw [List.foldl_cons, ih, List.mem_cons, ← or_assoc]
    refine or_congr_left ?_
    split
    · rename_i hfirst
      exact (or_iff_left_of_imp fun h ↦ h ▸ List.contains_iff_mem.1 hfirst).symm
    · rw [List.mem_append, List.mem_singleton]

namespace Controller

variable {controller : Controller}

theorem consistent_empty : Consistent {} :=
  ⟨List.nodup_nil, Registry.forall_empty⟩

theorem growsTo_refl (controller : Controller) : controller.GrowsTo controller :=
  ⟨List.prefix_rfl, Registry.growsTo_refl Resource.growsTo_refl _⟩

theorem GrowsTo.trans {before middle after : Controller} (h : before.GrowsTo middle)
    (h' : middle.GrowsTo after) : before.GrowsTo after :=
  ⟨h.imports.trans h'.imports, h.resources.trans Resource.GrowsTo.trans h'.resources⟩

theorem Consistent.afterFact (h : controller.Consistent) (fact : Fact) :
    (controller.afterFact fact).Consistent := by
  by_cases hkind : fact.kind = .controller
  · rw [Controller.afterFact, hkind]
    exact ⟨nodup_foldl_addNew h.imports fact.imports, h.resources⟩
  · cases hkey : fact.endpointKey? with
    | none => rwa [afterFact_of_endpointKey?_eq_none hkind hkey]
    | some key =>
      rw [afterFact_of_endpointKey?_eq_some hkind hkey]
      exact ⟨h.imports, h.resources.update Resource.consistent_empty fun _ hr ↦ hr.afterFact fact⟩

theorem growsTo_afterFact (fact : Fact) (controller : Controller) :
    controller.GrowsTo (controller.afterFact fact) := by
  by_cases hkind : fact.kind = .controller
  · rw [Controller.afterFact, hkind]
    exact { growsTo_refl controller with imports := prefix_foldl_addNew _ fact.imports }
  · cases hkey : fact.endpointKey? with
    | none =>
      rw [afterFact_of_endpointKey?_eq_none hkind hkey]
      exact growsTo_refl controller
    | some key =>
      rw [afterFact_of_endpointKey?_eq_some hkind hkey]
      exact { growsTo_refl controller with
        resources := Registry.growsTo_update Resource.growsTo_refl (Resource.growsTo_afterFact fact) }

end Controller

/-! ## Models -/

namespace Model

variable {model : Model}

theorem consistent_empty : (∅ : Model).Consistent :=
  Registry.forall_empty

theorem growsTo_refl (model : Model) : model.GrowsTo model :=
  Registry.growsTo_refl Controller.growsTo_refl _

theorem GrowsTo.trans {before middle after : Model} (h : before.GrowsTo middle)
    (h' : middle.GrowsTo after) : before.GrowsTo after :=
  Registry.GrowsTo.trans Controller.GrowsTo.trans h h'

theorem Consistent.mapResources {f : Resource → Resource} (h : model.Consistent)
    (hf : ∀ r : Resource, r.Consistent → (f r).Consistent) : (model.mapResources f).Consistent :=
  Registry.Forall.mapValues h fun _ hc ↦ ⟨hc.imports, hc.resources.mapValues hf⟩

theorem growsTo_mapResources {f : Resource → Resource} (hf : ∀ r : Resource, r.GrowsTo (f r))
    (model : Model) : model.GrowsTo (model.mapResources f) := by
  have hcontroller (c : Controller) : c.GrowsTo { c with resources := c.resources.mapValues f } :=
    ⟨List.prefix_rfl, Registry.growsTo_mapValues hf⟩
  exact Registry.growsTo_mapValues hcontroller

/-- Every change keeps a model consistent. -/
theorem Consistent.step (h : model.Consistent) (step : ModelStep) :
    (model.step step).Consistent := by
  cases step with
  | fold fact =>
    rw [Model.step]
    cases hcontroller : fact.contributesTo? with
    | none => rwa [fold_of_contributesTo?_eq_none hcontroller]
    | some controller =>
      rw [fold_of_contributesTo?_eq_some hcontroller]
      exact Registry.Forall.update h Controller.consistent_empty fun _ hc ↦ hc.afterFact fact
  | normalize order => exact h.mapResources fun _ hr ↦ hr.normalize order

/-- No change removes anything. -/
theorem growsTo_step (model : Model) (step : ModelStep) : model.GrowsTo (model.step step) := by
  cases step with
  | fold fact =>
    rw [Model.step]
    cases hcontroller : fact.contributesTo? with
    | none =>
      rw [fold_of_contributesTo?_eq_none hcontroller]
      exact growsTo_refl model
    | some controller =>
      rw [fold_of_contributesTo?_eq_some hcontroller]
      exact Registry.growsTo_update Controller.growsTo_refl (Controller.growsTo_afterFact fact)
  | normalize order => exact growsTo_mapResources (Resource.growsTo_normalize order) model

theorem Consistent.run (h : model.Consistent) (steps : List ModelStep) :
    (model.run steps).Consistent := by
  induction steps generalizing model with
  | nil => exact h
  | cons step steps ih => exact ih (h.step step)

theorem growsTo_run (model : Model) (steps : List ModelStep) : model.GrowsTo (model.run steps) := by
  induction steps generalizing model with
  | nil => exact growsTo_refl model
  | cons step steps ih => exact (growsTo_step model step).trans (ih _)

/-- Whatever facts are folded and however often the templates are normalized in between, the
model is consistent, and what it has by then it keeps. -/
theorem run_consistent_and_growing (steps : List ModelStep) :
    ((∅ : Model).run steps).Consistent ∧
      ∀ more, ((∅ : Model).run steps).GrowsTo ((∅ : Model).run (steps ++ more)) := by
  refine ⟨consistent_empty.run steps, fun more ↦ ?_⟩
  rw [run, run, List.foldl_append]
  exact growsTo_run _ more

end Model

end EndpointStubs
