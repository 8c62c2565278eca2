import EndpointStubs.Proofs.CheckedStubs
import EndpointStubs.Proofs.ClassFiles
import EndpointStubs.Proofs.TemplateCuts
import Mathlib.Data.List.Basic

/-!
# The two orders of format arguments

Textual order reads the groups of a template from the left; declaration order
goes through the registered placeholders and counts where each one stands. The
models that come of it are equal but for the order of the format arguments. Both
orders record the same variables equally often, as a placeholder without braces
stands in a text exactly where a group with its name does. What a placeholder
with braces does to the two counts is not said.
-/

namespace EndpointStubs

/-- To look up a list of keys is to repeat each entry as often as its key is looked up. -/
theorem Registry.perm_flatMap_replicate {κ α : Type} [DecidableEq κ] (r : Registry κ α)
    (keys : List κ) :
    (keys.filterMap r.get?).Perm
      (r.entries.flatMap fun (key, a) ↦ List.replicate (keys.countP (· = key)) a) := by
  obtain ⟨entries, hnodup⟩ := r
  change (keys.filterMap fun key ↦ entries.lookup key).Perm _
  induction entries generalizing keys with
  | nil => simp
  | cons entry rest ih =>
    obtain ⟨key, a⟩ := entry
    obtain ⟨hkey, hrest⟩ := List.nodup_cons.1 hnodup
    let here := keys.filter fun other ↦ decide (other = key)
    let others := keys.filter fun other ↦ !decide (other = key)
    have hhere : (here.filterMap fun other ↦ ((key, a) :: rest).lookup other) =
        List.replicate (keys.countP (· = key)) a := by
      have hsome : ∀ other ∈ here, ((key, a) :: rest).lookup other = some a := by
        intro other hother
        have heq : other = key := by simpa using (List.mem_filter.1 hother).2
        rw [lookup_cons_eq, if_pos heq]
      rw [List.filterMap_congr hsome, List.filterMap_eq_map', List.map_const',
        List.countP_eq_length_filter]
    have hothers : (others.filterMap fun other ↦ ((key, a) :: rest).lookup other) =
        others.filterMap fun other ↦ rest.lookup other := by
      refine List.filterMap_congr fun other hother ↦ ?_
      have hne : other ≠ key := by simpa using (List.mem_filter.1 hother).2
      rw [lookup_cons_eq, if_neg hne]
    have hcounts : (rest.flatMap fun (other, b) ↦ List.replicate (others.countP (· = other)) b) =
        rest.flatMap fun (other, b) ↦ List.replicate (keys.countP (· = other)) b := by
      refine List.flatMap_congr fun entry hentry ↦ ?_
      have hmem : entry.1 ∈ rest.map Prod.fst := List.mem_map_of_mem hentry
      have hne : entry.1 ≠ key := fun heq ↦ hkey (heq ▸ hmem)
      refine congrArg (List.replicate · entry.2) ?_
      rw [List.countP_filter]
      refine List.countP_congr fun k _ ↦ ?_
      simp only [Bool.and_eq_true, decide_eq_true_eq, Bool.not_eq_true', decide_eq_false_iff_not]
      exact ⟨And.left, fun h ↦ ⟨h, h ▸ hne⟩⟩
    have hsplit := (List.filter_append_perm (fun other ↦ decide (other = key)) keys).symm.filterMap
      fun other ↦ ((key, a) :: rest).lookup other
    rw [List.filterMap_append, hhere, hothers] at hsplit
    rw [List.flatMap_cons, ← hcounts]
    exact hsplit.trans ((ih others hrest).append_left _)

theorem eraseDups_map {α β : Type} [DecidableEq α] [DecidableEq β] {f : α → β}
    (hf : Function.Injective f) (xs : List α) :
    (xs.map f).eraseDups = xs.eraseDups.map f := by
  induction xs using List.reverseRecOn with
  | nil => rfl
  | append_singleton xs x ih =>
    rw [List.map_append, List.map_singleton, eraseDups_concat, eraseDups_concat, ih]
    by_cases hx : x ∈ xs
    · rw [if_pos hx, if_pos ((List.mem_map_of_injective hf).2 hx)]
    · rw [if_neg hx, if_neg (mt (List.mem_map_of_injective hf).1 hx), List.map_append,
        List.map_singleton]

/-- The number of places of a text at which a pattern starts. -/
def Text.countStarts (pattern text : List Char) : Nat :=
  text.tails.countP pattern.isPrefixOf

theorem Text.countStarts_append_of_not_mem {p : Char} {pattern before : List Char}
    (h : p ∉ before) (text : List Char) :
    countStarts (p :: pattern) (before ++ text) = countStarts (p :: pattern) text := by
  induction before with
  | nil => rfl
  | cons c before ih =>
    rw [List.mem_cons, not_or] at h
    have hstart : ¬(p :: pattern).isPrefixOf (c :: (before ++ text)) = true := by
      simp [h.1]
    rw [List.cons_append, countStarts, List.tails_cons, List.countP_cons_of_neg hstart]
    exact ih h.2

/-- Placeholders without braces do not overlap, so all places at which one starts are counted. -/
theorem countOccurrences_braced_eq_countStarts {name : List Char}
    (hname : ∀ c ∈ name, isBrace c = false) (text : List Char) :
    Text.countOccurrences (braced name) text = Text.countStarts (braced name) text := by
  induction hlength : text.length using Nat.strong_induction_on generalizing text with
  | _ n ih =>
  subst hlength
  cases text with
  | nil => simp [Text.countOccurrences, Text.countStarts, braced]
  | cons c tail =>
    cases hafter : Text.after? (braced name) (c :: tail) with
    | none =>
      have hstart : ¬(braced name).isPrefixOf (c :: tail) = true := by
        rw [List.isPrefixOf_iff_prefix]
        rintro ⟨rest, hrest⟩
        rw [Text.after?_eq_some_iff.2 hrest.symm] at hafter
        cases hafter
      rw [Text.countOccurrences_of_after?_eq_none hafter, Text.countStarts, List.tails_cons,
        List.countP_cons_of_neg hstart]
      exact ih _ (Nat.lt_succ_self tail.length) tail rfl
    | some rest =>
      have htext := Text.after?_eq_some_iff.1 hafter
      obtain ⟨rfl, htail⟩ : c = '{' ∧ tail = name ++ ['}'] ++ rest := by simpa [braced] using htext
      have hstart : (braced name).isPrefixOf ('{' :: tail) = true := by
        rw [List.isPrefixOf_iff_prefix]
        exact ⟨rest, htext.symm⟩
      have hshorter : rest.length < ('{' :: tail).length := by
        rw [Text.length_of_after? hafter]
        simp [braced]
      have hskip : Text.countStarts (braced name) tail = Text.countStarts (braced name) rest := by
        rw [htail]
        exact Text.countStarts_append_of_not_mem (not_mem_closed hname) rest
      have hne : braced name ≠ [] := List.cons_ne_nil _ _
      rw [Text.countOccurrences_of_after?_eq_some hne hafter, ih _ hshorter rest rfl, ← hskip]
      rw [Text.countStarts, Text.countStarts, List.tails_cons, List.countP_cons_of_pos hstart]

/-- The placeholder of the path variable is a text of at least one character and without braces. -/
def Argument.HasProperPlaceholder (v : Argument) : Prop :=
  ∃ placeholder : String, v.placeholder = some placeholder ∧ placeholder ≠ "" ∧
    ∀ c ∈ placeholder.toList, isBrace c = false

instance (v : Argument) : Decidable v.HasProperPlaceholder :=
  decidable_of_iff (v.placeholder.any fun placeholder ↦
      placeholder != "" && placeholder.toList.all (!isBrace ·)) <| by
    simp [Argument.HasProperPlaceholder, Option.any_eq_true]

namespace Resource

/-- A resource without its format arguments. -/
def withoutArguments (resource : Resource) : Resource :=
  { resource with formatArguments := [] }

/-- The order has no influence on the template. -/
theorem withoutArguments_normalize (resource : Resource) (order other : VariableOrder) :
    (resource.normalize order).withoutArguments = (resource.normalize other).withoutArguments := by
  unfold normalize
  split
  · rfl
  · split <;> rfl

variable {raw : Resource} (hproper : ∀ v ∈ raw.pathVariables.values, v.HasProperPlaceholder)
include hproper

theorem map_placeholder_values :
    raw.pathVariables.values.map Argument.placeholder = raw.placeholderNames.map some := by
  rw [placeholderNames, List.map_filterMap]
  have hsome : ∀ v ∈ raw.pathVariables.values,
      (v.placeholder.map some) = some v.placeholder := by
    intro v hv
    obtain ⟨placeholder, hplaceholder, -⟩ := hproper v hv
    rw [hplaceholder]
    rfl
  rw [List.filterMap_congr hsome, List.filterMap_eq_map']

/-- Each placeholder is registered once, where it is first used. -/
theorem keys_placeholders : raw.placeholders.keys = raw.placeholderNames.eraseDups.map some := by
  have hkeys : (raw.pathVariables.values.map fun v ↦ (v.placeholder, v.name)).map Prod.fst =
      raw.placeholderNames.map some := by
    rw [List.map_map]
    exact map_placeholder_values hproper
  rw [placeholders, Registry.keys_ofList, hkeys, eraseDups_map (Option.some_injective _)]

theorem isProper_of_mem_placeholderNames {placeholder : String}
    (h : placeholder ∈ raw.placeholderNames) :
    placeholder ≠ "" ∧ ∀ c ∈ placeholder.toList, isBrace c = false := by
  obtain ⟨v, hv, hplaceholder⟩ := List.mem_filterMap.1 h
  obtain ⟨other, hother, hplain⟩ := hproper v hv
  rw [hplaceholder] at hother
  cases hother
  exact hplain

/-- A registered placeholder is counted as often as the group with its name is read. -/
theorem count_bracedGroups_eq {key : Option String} (hkey : key ∈ raw.placeholders.keys)
    (template : List Char) :
    ((bracedGroups false template).map fun group ↦ some (String.ofList group)).countP (· = key) =
      Text.countOccurrences (placeholderText key) template := by
  rw [keys_placeholders hproper] at hkey
  obtain ⟨placeholder, hmem, rfl⟩ := List.mem_map.1 hkey
  obtain ⟨hne, hbraces⟩ := isProper_of_mem_placeholderNames hproper (List.mem_eraseDups.1 hmem)
  calc
    _ = (bracedGroups false template).count placeholder.toList := by
      rw [List.countP_map, List.count]
      refine List.countP_congr fun group _ ↦ ?_
      rw [Function.comp_apply, decide_eq_true_eq, Option.some.injEq, beq_iff_eq,
        ← String.toList_inj, String.toList_ofList]
    _ = _ := count_bracedGroups (by simpa using hne) hbraces template

/-- Both orders record the same variables. -/
theorem argumentOrder_perm (template : List Char) :
    (argumentOrder .textual raw.placeholders template).Perm
      (argumentOrder .declaration raw.placeholders template) := by
  let keys := (bracedGroups false template).map fun group ↦ some (String.ofList group)
  have htextual : argumentOrder .textual raw.placeholders template =
      keys.filterMap raw.placeholders.get? := by
    rw [List.filterMap_map]
    rfl
  have hdeclaration : argumentOrder .declaration raw.placeholders template =
      raw.placeholders.entries.flatMap fun entry ↦
        List.replicate (keys.countP (· = entry.1)) entry.2 := by
    refine List.flatMap_congr fun entry hentry ↦ ?_
    have hkey : entry.1 ∈ raw.placeholders.keys := List.mem_map_of_mem hentry
    exact congrArg (List.replicate · entry.2) (count_bracedGroups_eq hproper hkey template).symm
  rw [htextual, hdeclaration]
  exact raw.placeholders.perm_flatMap_replicate keys

/-- Declaration order goes through the placeholders as they are first used. -/
theorem map_some_argumentOrder_declaration (template : List Char) :
    (argumentOrder .declaration raw.placeholders template).map some =
      raw.placeholderNames.eraseDups.flatMap fun placeholder ↦
        List.replicate (Text.countStarts (placeholderText (some placeholder)) template)
          (raw.lastNamed? placeholder) := by
  have hentries := raw.placeholders.entries_eq_map_keys none
  rw [keys_placeholders hproper, List.map_map] at hentries
  rw [argumentOrder, hentries, List.flatMap_map, List.map_flatMap]
  refine List.flatMap_congr fun placeholder hmem ↦ ?_
  have hname := List.mem_eraseDups.1 hmem
  obtain ⟨name, hlast⟩ := Option.isSome_iff_exists.1 (isSome_lastNamed?_iff.2 hname)
  have hbraces := (isProper_of_mem_placeholderNames hproper hname).2
  have hcount : Text.countOccurrences (placeholderText (some placeholder)) template =
      Text.countStarts (placeholderText (some placeholder)) template :=
    countOccurrences_braced_eq_countStarts hbraces template
  rw [Function.comp_apply, List.map_replicate, get?_placeholders_eq_lastNamed?, hlast, hcount]
  rfl

end Resource

theorem Model.mapResources_mapResources (f g : Resource → Resource) (model : Model) :
    (model.mapResources f).mapResources g = model.mapResources fun resource ↦ g (f resource) := by
  simp [mapResources, Registry.mapValues, Function.comp_def]

/-- The two orders give models that differ in the order of the format arguments alone: without
these they are equal, and those of a resource are permuted. In declaration order the placeholders
come as they are first used by a path variable, each with the last variable that has it, and as
often as it stands in the raw template. Resources that are not normalized are left as they are. -/
theorem normalize_orders_equal_but_arguments (model : Model) :
    (model.normalize .textual).mapResources Resource.withoutArguments =
      (model.normalize .declaration).mapResources Resource.withoutArguments ∧
    ∀ controller key raw, model.resource? controller key = some raw →
      (∀ v ∈ raw.pathVariables.values, v.HasProperPlaceholder) →
      ∃ textual declared,
        (model.normalize .textual).resource? controller key = some textual ∧
        (model.normalize .declaration).resource? controller key = some declared ∧
        textual.formatArguments.Perm declared.formatArguments ∧
        (raw.template = none ∨ raw.pathVariables.isEmpty → textual = raw ∧ declared = raw) ∧
        ∀ template, raw.template = some template → raw.pathVariables.isEmpty = false →
          declared.formatArguments.map some =
            raw.placeholderNames.eraseDups.flatMap fun placeholder ↦
              List.replicate
                (Text.countStarts (placeholderText (some placeholder)) template.toList)
                (raw.lastNamed? placeholder) := by
  refine ⟨?_, fun controller key raw hraw hproper ↦ ?_⟩
  · have hresources (order : VariableOrder) :
        (model.normalize order).mapResources Resource.withoutArguments =
          model.mapResources fun raw ↦ (raw.normalize order).withoutArguments := by
      rw [Model.normalize, Model.mapResources_mapResources]
    rw [hresources, hresources]
    refine congrArg model.mapResources (funext fun raw ↦ ?_)
    exact raw.withoutArguments_normalize .textual .declaration
  · have hresource (order : VariableOrder) : (model.normalize order).resource? controller key =
        some (raw.normalize order) := by
      rw [Model.normalize, Model.resource?_mapResources, hraw, Option.map_some]
    refine ⟨_, _, hresource .textual, hresource .declaration, ?_, ?_, ?_⟩
    · unfold Resource.normalize
      split
      · exact List.Perm.refl _
      · split
        · exact List.Perm.refl _
        · exact Resource.argumentOrder_perm hproper _
    · intro hskipped
      exact ⟨Resource.normalize_eq_self hskipped .textual,
        Resource.normalize_eq_self hskipped .declaration⟩
    · intro template htemplate hvariables
      rw [Resource.normalize, htemplate]
      simp only [hvariables, Bool.false_eq_true, if_false]
      exact Resource.map_some_argumentOrder_declaration hproper template.toList

/-- Two variables share a placeholder, and the variable registered between them stands first in the
template, next to a group that no variable fills. -/
theorem normalize_orders_equal_but_arguments_shared :
    let raw : Resource :=
      { template := some "/\x7bb\x7d/\x7bx\x7d\x7b\x7bid\x7d\x7d/\x7bid\x7d"
        pathVariables := .ofList
          [(some "a", ⟨some "a", none, some "id"⟩), (some "b", ⟨some "b", none, some ""⟩),
            (some "c", ⟨some "c", none, some "id"⟩)] }
    let model : Model := (∅ : Model).updateResource "A" "A.f()" fun _ ↦ raw
    ((model.normalize .textual).resource? "A" "A.f()").map (·.formatArguments) =
        some [some "b", some "c", some "c"] ∧
      ((model.normalize .declaration).resource? "A" "A.f()").map (·.formatArguments) =
        some [some "c", some "c", some "b"] := by
  intro raw model
  have hraw : model.resource? "A" "A.f()" = some raw := by decide +kernel
  have hproper : ∀ v ∈ raw.pathVariables.values, v.HasProperPlaceholder := by decide +kernel
  obtain ⟨textual, declared, htextual, hdeclared, hperm, -, horder⟩ :=
    (normalize_orders_equal_but_arguments model).2 "A" "A.f()" raw hraw hproper
  have hnames : declared.formatArguments = [some "c", some "c", some "b"] := by
    refine List.map_injective_iff.2 (Option.some_injective _) ?_
    rw [horder _ rfl (by decide +kernel)]
    decide +kernel
  rw [hdeclared, Option.map_some, hnames]
  exact ⟨by decide +kernel, rfl⟩

end EndpointStubs
