import EndpointStubs.Proofs.RegistryOrder
import EndpointStubs.Proofs.Substitution
import EndpointStubs.Stub.Render
import Mathlib.Data.String.Basic

/-!
# Models up to order

Two models are the same up to order if they differ only in the order in which
controllers, resources, parameters and imports are listed. Such models have the
same problems and the same generated files: the renderer sorts whatever it takes
from a registry, and looks everything else up.
-/

namespace EndpointStubs

/-- The same endpoint, with its parameters registered in another order. -/
structure Resource.SameUpToOrder (r s : Resource) : Prop where
  methodName : r.methodName = s.methodName
  httpMethod : r.httpMethod = s.httpMethod
  template : r.template = s.template
  responseType : r.responseType = s.responseType
  hasPathVariable : r.hasPathVariable = s.hasPathVariable
  arguments : r.arguments.SameUpTo (· = ·) s.arguments
  pathVariables : r.pathVariables.SameUpTo (· = ·) s.pathVariables
  requestBody : r.requestBody = s.requestBody
  formatArguments : r.formatArguments = s.formatArguments

/-- The same controller, with its imports and endpoints listed in another order. -/
structure Controller.SameUpToOrder (c d : Controller) : Prop where
  packageName : c.packageName = d.packageName
  imports : c.imports.Perm d.imports
  resources : c.resources.SameUpTo Resource.SameUpToOrder d.resources

/-- The same model, with its controllers listed in another order. -/
def Model.SameUpToOrder (m n : Model) : Prop :=
  m.controllers.SameUpTo Controller.SameUpToOrder n.controllers

namespace Registry.SameUpTo

variable {κ α β γ δ : Type} [DecidableEq κ]

theorem get?_eq {r s : Registry κ α} (h : r.SameUpTo (· = ·) s) (key : κ) :
    r.get? key = s.get? key := by
  have hkey := h key
  generalize r.get? key = a at hkey
  generalize s.get? key = b at hkey
  cases hkey with
  | some hab => rw [hab]
  | none => rfl

theorem mapValues {R : α → β → Prop} {R' : γ → δ → Prop} {r : Registry κ α} {s : Registry κ β}
    {f : α → γ} {g : β → δ} (h : r.SameUpTo R s)
    (hfg : ∀ key a b, r.get? key = some a → s.get? key = some b → R a b → R' (f a) (g b)) :
    (r.mapValues f).SameUpTo R' (s.mapValues g) := by
  intro key
  rw [get?_mapValues, get?_mapValues]
  have hkey := h key
  cases ha : r.get? key with
  | none =>
    rw [ha] at hkey
    cases hb : s.get? key with
    | none => exact .none
    | some b =>
      rw [hb] at hkey
      cases hkey
  | some a =>
    obtain ⟨b, hb, hab⟩ := h.exists_right ha
    rw [hb]
    exact .some (hfg key a b ha hb hab)

end Registry.SameUpTo

theorem sortTexts_eq_of_perm {texts others : List String} (h : texts.Perm others) :
    sortTexts texts = sortTexts others := by
  have hsorted (l : List String) :
      (sortTexts l).Pairwise fun a b ↦ (decide (a ≤ b) : Bool) = true := by
    refine List.pairwise_mergeSort ?_ ?_ l
    · intro a b c hab hbc
      exact decide_eq_true (le_trans (of_decide_eq_true hab) (of_decide_eq_true hbc))
    · intro a b
      simpa using le_total a b
  refine List.Perm.eq_of_pairwise ?_ (hsorted texts) (hsorted others) ?_
  · intro a b _ _ hab hba
    exact le_antisymm (of_decide_eq_true hab) (of_decide_eq_true hba)
  · exact (List.mergeSort_perm _ _).trans (h.trans (List.mergeSort_perm _ _).symm)

/-- The first failure, or all results, do not depend on what stands for the elements. -/
theorem mapM_eq_of_forall₂ {ε α β γ : Type} {R : α → β → Prop} {f : α → Except ε γ}
    {g : β → Except ε γ} {l : List α} {l' : List β} (h : List.Forall₂ R l l')
    (hfg : ∀ a b, R a b → f a = g b) : l.mapM f = l'.mapM g := by
  induction h with
  | nil => rfl
  | cons hab _ ih => rw [List.mapM_cons, List.mapM_cons, hfg _ _ hab, ih]

/-- The placeholders of the path variables are plain, and no two variables share one. -/
structure Resource.HasPlainPlaceholders (resource : Resource) : Prop where
  named : ∀ name v, resource.pathVariables.get? name = some v → v.name = name
  plain : ∀ name v, resource.pathVariables.get? name = some v →
    ∃ p : String, v.placeholder = some p ∧ p ≠ "" ∧ IsPlain p.toList
  distinct : ∀ name v other w, resource.pathVariables.get? name = some v →
    resource.pathVariables.get? other = some w → v.placeholder = w.placeholder → name = other

namespace Resource.HasPlainPlaceholders

variable {resource : Resource}

theorem nodup_placeholders (h : resource.HasPlainPlaceholders) :
    ((resource.pathVariables.values.map fun v ↦ (v.placeholder, v.name)).map Prod.fst).Nodup := by
  rw [List.map_map, Registry.values, List.map_map]
  refine List.Nodup.map_on ?_ (List.Nodup.of_map _ resource.pathVariables.nodup_keys)
  rintro ⟨name, v⟩ hv ⟨other, w⟩ hw heq
  have hget := Registry.get?_eq_some_iff.2 hv
  have hget' := Registry.get?_eq_some_iff.2 hw
  have hname := h.distinct name v other w hget hget' heq
  rw [hname, hget'] at hget
  rw [hname, Option.some.inj hget]

theorem get?_placeholders (h : resource.HasPlainPlaceholders) (p name : Option String) :
    resource.placeholders.get? p = some name ↔
      ∃ v, resource.pathVariables.get? name = some v ∧ v.placeholder = p := by
  rw [Resource.placeholders, Registry.get?_ofList_eq_some_iff h.nodup_placeholders, List.mem_map]
  constructor
  · rintro ⟨v, hv, heq⟩
    obtain ⟨⟨key, w⟩, hw, rfl⟩ := List.mem_map.1 hv
    have hget := Registry.get?_eq_some_iff.2 hw
    have hnamed := h.named key w hget
    cases heq
    exact ⟨w, by rw [hnamed]; exact hget, rfl⟩
  · rintro ⟨v, hv, rfl⟩
    refine ⟨v, List.mem_map.2 ⟨(name, v), Registry.get?_eq_some_iff.1 hv, rfl⟩, ?_⟩
    rw [h.named name v hv]

theorem plain_of_mem_keys (h : resource.HasPlainPlaceholders) {p : Option String}
    (hp : p ∈ resource.placeholders.keys) : IsPlain (nameText p).toList := by
  rw [Registry.mem_keys_iff, Option.isSome_iff_exists] at hp
  obtain ⟨name, hname⟩ := hp
  obtain ⟨v, hv, rfl⟩ := (h.get?_placeholders p name).1 hname
  obtain ⟨text, htext, -, hplain⟩ := h.plain name v hv
  rw [htext]
  exact hplain

/-- The placeholders are replaced at once. -/
theorem normalize_eq (h : resource.HasPlainPlaceholders) (order : VariableOrder)
    {template : String} (htemplate : resource.template = some template)
    (hne : resource.pathVariables.isEmpty = false) :
    resource.normalize order =
      { resource with
        template := some (.ofList (substituteAtOnce
          (fun group ↦ resource.placeholders.keys.any fun p ↦ group == (nameText p).toList)
          template.toList))
        formatArguments :=
          Resource.argumentOrder order resource.placeholders template.toList } := by
  rw [Resource.normalize, htemplate]
  simp only [hne, Bool.false_eq_true, if_false]
  rw [substitutePlaceholders_eq_substituteAtOnce fun p hp ↦ h.plain_of_mem_keys hp]

end Resource.HasPlainPlaceholders

namespace Resource.SameUpToOrder

variable {r s : Resource}

theorem hasPlainPlaceholders (h : r.SameUpToOrder s) (hr : r.HasPlainPlaceholders) :
    s.HasPlainPlaceholders where
  named name v hv := hr.named name v (by rw [h.pathVariables.get?_eq, hv])
  plain name v hv := hr.plain name v (by rw [h.pathVariables.get?_eq, hv])
  distinct name v other w hv hw :=
    hr.distinct name v other w (by rw [h.pathVariables.get?_eq, hv])
      (by rw [h.pathVariables.get?_eq, hw])

theorem get?_placeholders_eq (h : r.SameUpToOrder s) (hr : r.HasPlainPlaceholders)
    (p : Option String) : r.placeholders.get? p = s.placeholders.get? p := by
  have hs := h.hasPlainPlaceholders hr
  ext name
  rw [hr.get?_placeholders, hs.get?_placeholders]
  simp only [h.pathVariables.get?_eq]

theorem isEmpty_pathVariables_eq (h : r.SameUpToOrder s) :
    r.pathVariables.isEmpty = s.pathVariables.isEmpty := by
  have hlength := h.pathVariables.keys_perm.length_eq
  simp only [Registry.keys, List.length_map] at hlength
  rw [Registry.isEmpty, Registry.isEmpty, Bool.eq_iff_iff, List.isEmpty_iff_length_eq_zero,
    List.isEmpty_iff_length_eq_zero, hlength]

/-- Normalizing in the order of the text does not depend on the order of the registry. -/
theorem normalize (h : r.SameUpToOrder s) (hr : r.HasPlainPlaceholders) :
    (r.normalize .textual).SameUpToOrder (s.normalize .textual) := by
  have hs := h.hasPlainPlaceholders hr
  cases htemplate : r.template with
  | none =>
    have hother : s.template = none := h.template ▸ htemplate
    rw [Resource.normalize, Resource.normalize, htemplate, hother]
    exact h
  | some template =>
    have hother : s.template = some template := h.template ▸ htemplate
    cases hempty : r.pathVariables.isEmpty with
    | true =>
      have hotherEmpty := h.isEmpty_pathVariables_eq ▸ hempty
      rw [Resource.normalize, Resource.normalize, htemplate, hother]
      simpa only [hempty, hotherEmpty, if_true] using h
    | false =>
      have hotherEmpty := h.isEmpty_pathVariables_eq ▸ hempty
      have hkeys (group : List Char) :
          (r.placeholders.keys.any fun p ↦ group == (nameText p).toList) =
            s.placeholders.keys.any fun p ↦ group == (nameText p).toList := by
        rw [Bool.eq_iff_iff, List.any_eq_true, List.any_eq_true]
        simp only [Registry.mem_keys_iff, h.get?_placeholders_eq hr]
      rw [hr.normalize_eq .textual htemplate hempty, hs.normalize_eq .textual hother hotherEmpty]
      refine { h with template := ?_, formatArguments := ?_ }
      · simp only [hkeys]
      · simp only [Resource.argumentOrder, h.get?_placeholders_eq hr]

theorem unplacedVariables_perm (h : r.SameUpToOrder s) :
    r.unplacedVariables.Perm s.unplacedVariables := by
  unfold Resource.unplacedVariables
  rw [h.formatArguments]
  exact h.pathVariables.keys_perm.filter _

theorem templateProblems_eq (h : r.SameUpToOrder s) (template : String) :
    r.templateProblems template = s.templateProblems template := by
  have hperm := h.unplacedVariables_perm
  have hempty : r.unplacedVariables.isEmpty = s.unplacedVariables.isEmpty := by
    rw [Bool.eq_iff_iff, List.isEmpty_iff_length_eq_zero, List.isEmpty_iff_length_eq_zero,
      hperm.length_eq]
  have hsort := sortTexts_eq_of_perm (hperm.filterMap id)
  simp only [Resource.templateProblems, hperm.contains_eq, hempty, hsort]

theorem problems_eq (h : r.SameUpToOrder s) : r.problems = s.problems := by
  unfold Resource.problems
  rw [h.httpMethod, h.template, h.isEmpty_pathVariables_eq]
  cases s.template with
  | none => rfl
  | some template => simp only [h.templateProblems_eq template]

end Resource.SameUpToOrder

namespace Model.SameUpToOrder

variable {m n : Model}

theorem resource? (h : m.SameUpToOrder n) {controller key : String} {resource : Resource}
    (hresource : m.resource? controller key = some resource) :
    ∃ other, n.resource? controller key = some other ∧ resource.SameUpToOrder other := by
  obtain ⟨c, hc, hkey⟩ := Option.bind_eq_some_iff.1 hresource
  obtain ⟨d, hd, hcd⟩ := Registry.SameUpTo.exists_right h hc
  obtain ⟨other, hother, hsame⟩ := hcd.resources.exists_right hkey
  exact ⟨other, Option.bind_eq_some_iff.2 ⟨d, hd, hother⟩, hsame⟩

theorem normalize (h : m.SameUpToOrder n)
    (hplain : ∀ controller key resource, m.resource? controller key = some resource →
      resource.HasPlainPlaceholders) :
    (m.normalize .textual).SameUpToOrder (n.normalize .textual) := by
  refine Registry.SameUpTo.mapValues h fun controller c d hc _ hcd ↦ ?_
  refine { hcd with resources := hcd.resources.mapValues fun key r s hr _ hrs ↦ ?_ }
  exact hrs.normalize (hplain controller key r (Option.bind_eq_some_iff.2 ⟨c, hc, hr⟩))

end Model.SameUpToOrder

end EndpointStubs
