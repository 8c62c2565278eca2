import EndpointStubs.Proofs.FormatBack
import EndpointStubs.Proofs.LinkedClasses
import EndpointStubs.Proofs.StubMethods

/-!
# What a silent check promises

If the check of a model of sources names no problem, every endpoint has a stub
method of its own, and each stub method stands for its endpoint faithfully: its
template has no group left, its path variables are declared first and once each,
and the format call passes each of them for each occurrence of its placeholder in
the raw template, from left to right. The check reads the normalized template;
what it says is traced back to the raw one through the placeholders.
-/

namespace EndpointStubs

/-- What the check of an endpoint establishes when it names no problem. -/
structure Resource.IsClean (resource : Resource) : Prop where
  mapped : resource.httpMethod ≠ none
  noGroups : ∀ template ∈ resource.template, bracedGroups true template.toList = []
  placed : ∀ name ∈ resource.pathVariables.keys, name ∈ resource.formatArguments

theorem ite_isEmpty_eq_nil_iff {α β : Type} {found : List α} {listed : β} :
    (if found.isEmpty then [] else [listed]) = [] ↔ found = [] := by
  cases found <;> simp

theorem Resource.parts_of_templateProblems {resource : Resource} {template : String}
    (h : resource.templateProblems template = .ok []) :
    bracedGroups true template.toList = [] ∧ resource.unplacedVariables = [] := by
  unfold templateProblems at h
  dsimp only at h
  split at h
  · cases h
  · obtain ⟨hgroups, hunplaced⟩ := List.append_eq_nil_iff.1 (Except.ok.inj h)
    exact ⟨ite_isEmpty_eq_nil_iff.1 hgroups, ite_isEmpty_eq_nil_iff.1 hunplaced⟩

theorem Resource.parts_of_problems {resource : Resource} (h : resource.problems = .ok []) :
    resource.httpMethod ≠ none ∧
      (resource.template = none → resource.pathVariables.isEmpty = true) ∧
      ∀ template ∈ resource.template, resource.templateProblems template = .ok [] := by
  have hmapped (hnil : (if resource.httpMethod.isNone then [Problem.noMapping] else []) = []) :
      resource.httpMethod ≠ none := by
    intro hnone
    rw [hnone] at hnil
    cases hnil
  unfold problems at h
  cases htemplate : resource.template with
  | none =>
    rw [htemplate] at h
    obtain ⟨hmapping, hempty⟩ := List.append_eq_nil_iff.1 (Except.ok.inj h)
    refine ⟨hmapped hmapping, fun _ ↦ ?_, nofun⟩
    by_contra hvariables
    rw [if_neg hvariables] at hempty
    cases hempty
  | some template =>
    rw [htemplate] at h
    obtain ⟨found, hfound, h⟩ := bind_eq_ok.1 h
    obtain ⟨hmapping, rfl⟩ := List.append_eq_nil_iff.1 (Except.ok.inj h)
    refine ⟨hmapped hmapping, nofun, fun text ht ↦ ?_⟩
    cases ht
    exact hfound

theorem Resource.isClean_of_problems {resource : Resource} (h : resource.problems = .ok []) :
    resource.IsClean := by
  obtain ⟨hmapped, hvariables, htemplate⟩ := parts_of_problems h
  refine ⟨hmapped, fun template ht ↦ (parts_of_templateProblems (htemplate template ht)).1,
    fun name hname ↦ ?_⟩
  cases ht : resource.template with
  | none =>
    rw [Registry.keys, List.isEmpty_iff.1 (hvariables ht)] at hname
    cases hname
  | some template =>
    have hunplaced := (parts_of_templateProblems (htemplate template ht)).2
    by_contra hnot
    have hmem : name ∈ resource.unplacedVariables :=
      List.mem_filter.2 ⟨hname, by simpa using hnot⟩
    rw [hunplaced] at hmem
    cases hmem

theorem Model.isClean_of_problems {model : Model} (hnamed : model.HasNamedVariables)
    (h : model.problems = .ok ∅) {controller key : String} {resource : Resource}
    (hresource : model.resource? controller key = some resource) : resource.IsClean := by
  rw [problems_eq hnamed, Except.ok.injEq] at h
  have hnone := Registry.eq_nil_of_ofList_eq_empty h
  have hmem := List.mem_map_of_mem (f := fun x ↦ (x.1, x.2.listedProblems))
    (mem_endpoints_iff.2 ⟨controller, hresource⟩)
  have hlisted : resource.listedProblems = [] := by
    simpa using List.filter_eq_nil_iff.1 hnone _ hmem
  apply Resource.isClean_of_problems
  rw [Resource.problems_eq_listedProblems (hnamed controller key resource hresource), hlisted]

namespace Text

theorem countOccurrences_of_after?_eq_some {pattern text rest : List Char} (hne : pattern ≠ [])
    (h : after? pattern text = some rest) :
    countOccurrences pattern text = countOccurrences pattern rest + 1 := by
  cases text with
  | nil =>
    have hnil : pattern = [] := List.append_eq_nil_iff.1 (after?_eq_some_iff.1 h).symm |>.1
    exact absurd hnil hne
  | cons c tail =>
    rw [countOccurrences, dif_neg hne]
    split
    · rename_i hrest
      rw [h] at hrest
      cases hrest
      rfl
    · rename_i hnone
      rw [h] at hnone
      cases hnone

theorem countOccurrences_of_after?_eq_none {pattern tail : List Char} {c : Char}
    (h : after? pattern (c :: tail) = none) :
    countOccurrences pattern (c :: tail) = countOccurrences pattern tail := by
  have hne : pattern ≠ [] := by
    rintro rfl
    cases h
  rw [countOccurrences, dif_neg hne]
  split
  · rename_i hrest
    rw [h] at hrest
    cases hrest
  · rfl

theorem countOccurrences_append_of_not_mem {p : Char} {pattern before text : List Char}
    (h : p ∉ before) :
    countOccurrences (p :: pattern) (before ++ text) = countOccurrences (p :: pattern) text := by
  induction before with
  | nil => rfl
  | cons c before ih =>
    rw [List.mem_cons, not_or] at h
    have hnone : after? (p :: pattern) (c :: (before ++ text)) = none := by
      rw [after?, if_neg h.1]
    rw [List.cons_append, countOccurrences_of_after?_eq_none hnone, ih h.2]

end Text

/-- A placeholder without braces occurs as often as its group does among the pieces of the text. -/
theorem countOccurrences_braced {name : List Char} (hname : ∀ c ∈ name, isBrace c = false)
    (text : List Char) :
    Text.countOccurrences (braced name) text =
      ((pieces text).filterMap Piece.name?).count name := by
  fun_induction pieces text with
  | case1 => rw [Text.countOccurrences]; rfl
  | case2 rest after h ih =>
    have hrest := takeWhile_append_of_dropWhile_eq h
    have hinside : ∀ c ∈ rest.takeWhile (!isBrace ·), isBrace c = false := fun _ ↦
      not_isBrace_of_mem_takeWhile
    rw [List.filterMap_cons_some (f := Piece.name?) (b := rest.takeWhile (!isBrace ·)) rfl,
      List.count_cons, ← ih]
    generalize rest.takeWhile (!isBrace ·) = inside at hrest hinside
    subst hrest
    by_cases heq : inside = name
    · subst heq
      have hafter : Text.after? (braced inside) ('{' :: (inside ++ '}' :: after)) = some after :=
        Text.after?_eq_some_iff.2 (by simp [braced])
      rw [Text.countOccurrences_of_after?_eq_some (by simp [braced]) hafter, beq_self_eq_true,
        if_pos rfl]
    · have hnone : Text.after? (braced name) ('{' :: (inside ++ '}' :: after)) = none :=
        after?_placeholder_eq_none fun _ htext ↦ heq (append_closed_inj hinside hname htext).1
      have hskip : Text.countOccurrences (braced name) (inside ++ ['}'] ++ after) = _ :=
        Text.countOccurrences_append_of_not_mem (not_mem_closed hinside)
      rw [List.append_assoc, List.singleton_append] at hskip
      rw [Text.countOccurrences_of_after?_eq_none hnone, hskip, beq_false_of_ne heq]
      rfl
  | case3 rest h ih =>
    rw [List.filterMap_cons_none (f := Piece.name?) rfl, ← ih]
    apply Text.countOccurrences_of_after?_eq_none
    apply after?_placeholder_eq_none
    rintro tail rfl
    exact h tail (takeWhile_dropWhile_closed hname _).2
  | case4 c rest hc ih =>
    rw [List.filterMap_cons_none (f := Piece.name?) rfl, ← ih]
    apply Text.countOccurrences_of_after?_eq_none
    rw [braced, List.cons_append, Text.after?, if_neg (Ne.symm hc)]

/-- The groups that are looked for are counted as their placeholders are; an empty one is not among
them. -/
theorem count_bracedGroups {name : List Char} (hne : name ≠ [])
    (hname : ∀ c ∈ name, isBrace c = false) (text : List Char) :
    (bracedGroups false text).count name = Text.countOccurrences (braced name) text := by
  have hkept : (false || !name.isEmpty) = true := by simpa using hne
  rw [bracedGroups_eq_filterMap_pieces, countOccurrences_braced hname]
  exact List.count_filter hkept

/-- The texts occur in this order from left to right, without overlapping. -/
def OccurInOrder : List (List Char) → List Char → Prop
  | [], _ => True
  | p :: ps, text => ∃ before after, text = before ++ (p ++ after) ∧ OccurInOrder ps after

theorem OccurInOrder.append_left {texts : List (List Char)} {text : List Char}
    (h : OccurInOrder texts text) (before : List Char) : OccurInOrder texts (before ++ text) := by
  cases texts with
  | nil => trivial
  | cons p ps =>
    obtain ⟨between, after, rfl, hrest⟩ := h
    exact ⟨before ++ between, after, (List.append_assoc _ _ _).symm, hrest⟩

theorem occurInOrder_filledGroups (known : List Char → Bool) (text : List Char) :
    OccurInOrder ((filledGroups known text).map braced) text := by
  have hpieces (ps : List Piece) :
      OccurInOrder (((ps.filterMap Piece.name?).filter known).map braced)
        (ps.flatMap Piece.chars) := by
    induction ps with
    | nil => trivial
    | cons piece ps ih =>
      rw [List.flatMap_cons]
      cases piece with
      | char c =>
        rw [List.filterMap_cons_none rfl]
        exact ih.append_left [c]
      | group name =>
        rw [List.filterMap_cons_some (f := Piece.name?) (b := name) rfl, List.filter_cons]
        split
        · exact ⟨[], ps.flatMap Piece.chars, rfl, ih⟩
        · exact ih.append_left (braced name)
  have htext := hpieces (pieces text)
  rwa [flatMap_chars_pieces] at htext

namespace Resource

section Named

variable {raw : Resource} (hraw : raw.formatArguments = [])
  (hnamed : ∀ name v, raw.pathVariables.get? name = some v → v.name = name)

include hraw hnamed

/-- The format call passes a path variable as often as its placeholder occurs in the raw template. -/
theorem count_formatArguments {name : Option String} {v : Argument}
    (hv : raw.pathVariables.get? name = some v)
    (hplaced : name ∈ (raw.normalize .textual).formatArguments) :
    ∃ template, raw.template = some template ∧
      (raw.normalize .textual).formatArguments.count name =
        Text.countOccurrences (placeholderText v.placeholder) template.toList := by
  obtain ⟨template, htemplate, hnormalize⟩ :=
    exists_template_of_formatArguments_ne_nil hraw (List.ne_nil_of_mem hplaced)
  refine ⟨template, htemplate, ?_⟩
  have harguments : (raw.normalize .textual).formatArguments =
      (bracedGroups false template.toList).filterMap raw.filledBy? := by
    rw [hnormalize]
  rw [harguments] at hplaced
  obtain ⟨group, hgroup, hfilled⟩ := List.mem_filterMap.1 hplaced
  have hplaceholder : v.placeholder = some (.ofList group) := by
    obtain ⟨v', hv', hplaceholder⟩ := exists_variable_of_get?_placeholders hnamed hfilled
    rw [hv, Option.some.injEq] at hv'
    rwa [hv']
  have hfilledBy (other : List Char) : raw.filledBy? other = some name ↔ other = group := by
    constructor
    · intro hother
      obtain ⟨v', hv', hsame⟩ := exists_variable_of_get?_placeholders hnamed hother
      rw [hv, Option.some.injEq] at hv'
      rw [← hv', hplaceholder, Option.some.injEq, String.ofList_inj] at hsame
      exact hsame.symm
    · rintro rfl
      exact hfilled
  rw [bracedGroups_eq_filterMap_pieces] at hgroup
  obtain ⟨hmem, hkept⟩ := List.mem_filter.1 hgroup
  have hne : group ≠ [] := by simpa using hkept
  calc
    _ = (bracedGroups false template.toList).count group := by
      rw [harguments, List.count_filterMap, List.count]
      refine List.countP_congr fun other _ ↦ ?_
      rw [beq_iff_eq, beq_iff_eq, hfilledBy]
    _ = Text.countOccurrences (braced group) template.toList :=
      count_bracedGroups hne (not_isBrace_of_mem_filterMap_pieces hmem) _
    _ = _ := by
      rw [hplaceholder, placeholderText, nameText, Option.getD_some, String.toList_ofList]
      rfl

/-- The placeholders of the format arguments occur in the raw template in the order of the
arguments. -/
theorem occurInOrder_formatArguments :
    ∃ found, (raw.normalize .textual).formatArguments.mapM raw.pathVariables.get? = some found ∧
      ∀ template ∈ raw.template,
        OccurInOrder (found.map fun v ↦ placeholderText v.placeholder) template.toList := by
  cases harguments : (raw.normalize .textual).formatArguments with
  | nil => exact ⟨[], rfl, fun _ _ ↦ trivial⟩
  | cons name names =>
    obtain ⟨template, htemplate, hnormalize⟩ := exists_template_of_formatArguments_ne_nil hraw
      (harguments ▸ List.cons_ne_nil name names)
    obtain ⟨found, hfound, htexts⟩ := exists_variables hnamed (bracedGroups false template.toList)
    rw [← filledGroups_fills] at htexts
    refine ⟨found, ?_, fun text htext ↦ ?_⟩
    · rw [← harguments, hnormalize]
      exact hfound
    · rw [htemplate] at htext
      cases htext
      rw [htexts]
      exact occurInOrder_filledGroups raw.fills template.toList

end Named

end Resource

/-! ## Faithful stub methods -/

/-- Every path variable is registered under its name and has a type. -/
def Resource.HasTypedVariables (raw : Resource) : Prop :=
  ∀ name v, raw.pathVariables.get? name = some v → v.name = name ∧ name ≠ none ∧ v.type ≠ none

/-- The path variables of sources have names and types. -/
theorem hasTypedVariables_summary {sources : List String} {controller key : String}
    {raw : Resource}
    (hraw : (Model.summary (sources.flatMap scan)).resource? controller key = some raw) :
    raw.HasTypedVariables := by
  intro name v hv
  refine ⟨Model.name_of_get?_pathVariables hraw name v hv, ?_⟩
  obtain ⟨-, rfl⟩ := Model.resource?_summary.1 hraw
  obtain ⟨fact, hfact, hkind, hname, rfl⟩ := exists_fact_of_get?_parameters hv
  have hparameter : fact.isParameter = true := by
    rw [Fact.isParameter, hkind]
    rfl
  have habout : fact.isAboutMethod = true := by
    rw [Fact.isAboutMethod, hparameter, Bool.or_true]
  have hcomplete := isComplete_of_mem_scan (mem_endpointFacts.1 hfact).1 habout
  refine ⟨?_, hcomplete.typeText⟩
  rw [← hname, (hcomplete.name hparameter).2]
  exact Option.some_ne_none _

/-- The lines are those of a stub method for the normalized endpoint, which does not lose any of
the path variables of the raw one. -/
structure Resource.IsStubbedBy (raw resource : Resource) (lines : List String) : Prop where
  /-- No placeholder is left. -/
  noGroups : ∀ template ∈ resource.template, bracedGroups true template.toList = []
  /-- The first parameters declare the path variables, once each and with their types, and the
  format call is given the format arguments. -/
  method : ∃ (method : StubMethod) (declared others : List StubParameter),
    lines = method.lines ∧
    (∃ endpoint : StubEndpoint, endpoint.resource = resource ∧ method.name = endpoint.name ∧
      method.constant = endpoint.constant ∧ method.verb = endpoint.httpMethod.verb) ∧
    method.requestParameters = declared ++ others ∧
    (declared.map fun parameter ↦ some parameter.name).Perm raw.pathVariables.keys ∧
    (∀ parameter ∈ declared, ∃ v, raw.pathVariables.get? (some parameter.name) = some v ∧
      v.type = some parameter.type) ∧
    method.formatArguments.map some = resource.formatArguments
  /-- A path variable is passed as often as its placeholder occurs. -/
  counts : ∀ name v, raw.pathVariables.get? name = some v →
    ∃ template, raw.template = some template ∧ resource.formatArguments.count name =
      Text.countOccurrences (placeholderText v.placeholder) template.toList
  /-- The arguments follow the occurrences of their placeholders from left to right. -/
  inOrder : ∃ found, resource.formatArguments.mapM raw.pathVariables.get? = some found ∧
    ∀ template ∈ raw.template,
      OccurInOrder (found.map fun v ↦ placeholderText v.placeholder) template.toList

theorem some_nameText {name : Option String} (h : name ≠ none) : some (nameText name) = name := by
  obtain ⟨text, rfl⟩ := Option.ne_none_iff_exists'.1 h
  rfl

theorem map_some_nameText {names : List (Option String)} (h : ∀ name ∈ names, name ≠ none) :
    names.map (some ∘ nameText) = names := by
  conv_rhs => rw [← List.map_id names]
  exact List.map_congr_left fun name hname ↦ some_nameText (h name hname)

theorem Resource.IsClean.isStubbedBy {raw : Resource} (hraw : raw.formatArguments = [])
    (htyped : raw.HasTypedVariables) (hclean : (raw.normalize .textual).IsClean)
    {endpoint : StubEndpoint} {lines : List String}
    (hresource : endpoint.resource = raw.normalize .textual)
    (hrenderable : endpoint.resource.Renderable) (hlines : endpoint.methodLines = .ok lines) :
    raw.IsStubbedBy (raw.normalize .textual) lines := by
  have hnamed : ∀ name v, raw.pathVariables.get? name = some v → v.name = name :=
    fun name v hv ↦ (htyped name v hv).1
  have hplaced : ∀ name ∈ raw.pathVariables.keys,
      name ∈ (raw.normalize .textual).formatArguments := by
    have hplaced := hclean.placed
    rwa [Resource.pathVariables_normalize] at hplaced
  refine ⟨hclean.noGroups, ?_, fun name v hv ↦ ?_,
    Resource.occurInOrder_formatArguments hraw hnamed⟩
  · rw [endpoint.methodLines_eq_stubMethod hrenderable, Except.ok.injEq] at hlines
    have harguments : ∀ name ∈ (raw.normalize .textual).formatArguments,
        name ≠ none ∧ (raw.pathVariables.get? name).isSome := by
      have harguments := hrenderable.formatArguments
      rwa [hresource, Resource.pathVariables_normalize] at harguments
    have hused : (raw.normalize .textual).usedVariables.Perm raw.pathVariables.keys := by
      refine (List.perm_ext_iff_of_nodup (nodup_eraseDups _) raw.pathVariables.nodup_keys).2
        fun name ↦ ?_
      rw [List.mem_eraseDups]
      exact ⟨fun hname ↦ (Registry.mem_keys_iff _ _).2 (harguments name hname).2, hplaced name⟩
    have hdeclared : ∀ name ∈ (raw.normalize .textual).usedVariables, name ≠ none := fun name hname ↦
      (harguments name (List.mem_eraseDups.1 hname)).1
    refine ⟨endpoint.stubMethod, _, _, hlines.symm, ⟨endpoint, hresource, rfl, rfl, rfl⟩,
      List.append_assoc _ _ _, ?_, ?_, ?_⟩
    · rw [hresource, List.map_map]
      have hnames := map_some_nameText hdeclared
      exact (List.Perm.of_eq hnames).trans hused
    · intro parameter hparameter
      rw [hresource] at hparameter
      obtain ⟨name, hname, rfl⟩ := List.mem_map.1 hparameter
      obtain ⟨v, hv⟩ := Option.isSome_iff_exists.1 (harguments name (List.mem_eraseDups.1 hname)).2
      refine ⟨v, ?_, ?_⟩
      · rw [some_nameText (hdeclared name hname), hv]
      · rw [Resource.pathVariables_normalize, hv, Option.bind_some,
          some_nameText (htyped name v hv).2.2]
    · rw [StubEndpoint.stubMethod, hresource, List.map_map]
      exact map_some_nameText fun name hname ↦ (harguments name hname).1
  · have hname : name ∈ raw.pathVariables.keys := by
      rw [Registry.mem_keys_iff, hv]
      rfl
    exact Resource.count_formatArguments hraw hnamed hv (hplaced name hname)

theorem forall₂_comp {α β γ : Type} {R : α → β → Prop} {S : β → γ → Prop} {as : List α}
    {bs : List β} {cs : List γ} (h : List.Forall₂ R as bs) (h' : List.Forall₂ S bs cs) :
    List.Forall₂ (fun a c ↦ ∃ b, R a b ∧ S b c) as cs := by
  induction h generalizing cs with
  | nil =>
    cases h'
    exact .nil
  | cons hab _ ih =>
    cases h' with
    | cons hbc hrest => exact .cons ⟨_, hab, hbc⟩ (ih hrest)

/-- A mapped endpoint of sources has a method name. -/
theorem methodName_ne_none_of_httpMethod {sources : List String} {order : VariableOrder}
    {controller key : String} {resource : Resource}
    (hresource : (roundModel order (sources.flatMap scan)).resource? controller key =
      some resource) (h : resource.httpMethod ≠ none) : resource.methodName ≠ none := by
  obtain ⟨raw, hraw, rfl⟩ := resource?_roundModel.1 hresource
  obtain ⟨-, rfl⟩ := Model.resource?_summary.1 hraw
  rw [Resource.httpMethod_normalize] at h
  rw [Resource.methodName_normalize]
  obtain ⟨method, hmethod⟩ := Option.ne_none_iff_exists'.1 h
  obtain ⟨fact, hfact, -⟩ := exists_of_lastSome_eq_some hmethod
  obtain ⟨name, hname, -⟩ := exists_isName_of_isRoute hfact
  intro hnone
  have hmissing := lastSome_eq_none_iff.1 hnone fact hfact
  rw [Fact.capitalizedName?_eq, hname] at hmissing
  cases hmissing

/-- If all endpoints are mapped and have names, each one gets a stub method. -/
theorem Controller.forall₂_numberEndpoints {endpoints : List (String × Resource)}
    (h : ∀ entry ∈ endpoints, entry.2.httpMethod ≠ none ∧ entry.2.methodName ≠ none)
    (used : List String) :
    List.Forall₂ (fun entry endpoint ↦ endpoint.resource = entry.2) endpoints
      (numberEndpoints used endpoints) := by
  induction endpoints generalizing used with
  | nil => exact .nil
  | cons entry rest ih =>
    obtain ⟨hmethod, hname⟩ := h entry List.mem_cons_self
    obtain ⟨endpoint, names, hresource, hnumbered⟩ :=
      exists_numberEndpoints_cons hmethod hname rest used
    rw [hnumbered]
    exact .cons hresource (ih (fun e he ↦ h e (List.mem_cons_of_mem _ he)) names)

/-- The path of the stub class of a controller. -/
def Model.stubPath (suffixes : Suffixes) (key : String) (controller : Controller) : String :=
  let (packageName, simpleName) := controllerName key controller.packageName
  classFile packageName (simpleName ++ suffixes.stub)

theorem Model.stubFile_eq_ok {suffixes : Suffixes} {key : String} {controller : Controller}
    {file : String × String} (h : stubFile suffixes key controller = .ok file) :
    file.1 = stubPath suffixes key controller ∧
      controller.stubText suffixes (controllerName key controller.packageName).1
        (controllerName key controller.packageName).2 = .ok file.2 := by
  unfold stubFile at h
  obtain ⟨text, htext, h⟩ := bind_eq_ok.1 h
  cases h
  exact ⟨rfl, htext⟩

/-- The stub classes are written in the order of the controllers, each under its path. -/
theorem Model.exists_of_stubFiles_eq_ok {model : Model} {suffixes : Suffixes} {files : Files}
    (h : model.stubFiles suffixes = .ok files) :
    ∃ written : List (String × String), files = .ofList written ∧
      (model.sortedControllers.mapM fun (key, controller) ↦ stubFile suffixes key controller) =
        .ok written ∧
      written.map Prod.fst =
        model.sortedControllers.map fun entry ↦ stubPath suffixes entry.1 entry.2 := by
  unfold stubFiles at h
  obtain ⟨written, hwritten, h⟩ := bind_eq_ok.1 h
  cases h
  refine ⟨written, rfl, hwritten, Eq.symm ?_⟩
  rw [← List.forall₂_eq_eq_eq, List.forall₂_map_left_iff, List.forall₂_map_right_iff]
  exact (forall₂_of_mapM_eq_ok hwritten).imp fun entry file hfile ↦ (stubFile_eq_ok hfile).1.symm

/-- Where no two controllers share a path, each one has its own file. -/
theorem Model.get?_stubFiles {model : Model} {suffixes : Suffixes} {files : Files}
    (h : model.stubFiles suffixes = .ok files)
    (hpaths : (model.controllers.entries.map fun entry ↦
      stubPath suffixes entry.1 entry.2).Nodup)
    {key : String} {controller : Controller}
    (hcontroller : model.controller? key = some controller) :
    ∃ text, controller.stubText suffixes (controllerName key controller.packageName).1
        (controllerName key controller.packageName).2 = .ok text ∧
      files.get? (stubPath suffixes key controller) = some text := by
  obtain ⟨written, rfl, hwritten, hwrittenPaths⟩ := exists_of_stubFiles_eq_ok h
  have hnodup : (written.map Prod.fst).Nodup := by
    rw [hwrittenPaths]
    exact ((List.mergeSort_perm _ _).map _).nodup_iff.2 hpaths
  have hsorted : (key, controller) ∈ model.sortedControllers :=
    List.mem_mergeSort.2 (Registry.get?_eq_some_iff.1 hcontroller)
  obtain ⟨file, hmem, hfile⟩ := exists_of_mapM_eq_ok hwritten hsorted
  obtain ⟨hpath, htext⟩ := stubFile_eq_ok hfile
  refine ⟨file.2, htext, ?_⟩
  rw [Registry.get?_ofList_eq_some_iff hnodup, ← hpath]
  exact hmem

/-- For all sources: if the check names no problem and no two controllers share a path, every
endpoint has its stub method in the file of its controller, and the stub method stands for the
endpoint faithfully. -/
theorem checked_stubs_faithful {sources : List String} {suffixes : Suffixes}
    (hproblems : (roundModel .textual (sources.flatMap scan)).problems = .ok ∅)
    (hpaths : ((roundModel .textual (sources.flatMap scan)).controllers.entries.map fun entry ↦
      Model.stubPath suffixes entry.1 entry.2).Nodup) :
    ∃ files, (roundModel .textual (sources.flatMap scan)).stubFiles suffixes = .ok files ∧
      ∀ key controller,
        (roundModel .textual (sources.flatMap scan)).controller? key = some controller →
        ∃ packageName simpleName methods,
          files.get? (Model.stubPath suffixes key controller) =
            some (fileText (controller.stubHead suffixes packageName simpleName ++
              methods.flatMap ("" :: ·) ++ ["\x7d"])) ∧
          List.Forall₂ (fun entry lines ↦ ∃ raw,
              ((∅ : Model).foldAll (sources.flatMap scan)).resource? key entry.1 = some raw ∧
                raw.IsStubbedBy entry.2 lines)
            controller.orderedEndpoints methods := by
  have hparameters := hasNamedParameters_scan sources
  obtain ⟨files, hfiles⟩ := Model.exists_stubFiles (fun _ _ _ ↦ hparameters.renderable) suffixes
  refine ⟨files, hfiles, fun key controller hcontroller ↦ ?_⟩
  obtain ⟨text, htext, hget⟩ := Model.get?_stubFiles hfiles hpaths hcontroller
  obtain ⟨methods, hmethods, rfl⟩ := Controller.stubText_eq_ok htext
  refine ⟨_, _, methods, hget, ?_⟩
  have hresource : ∀ entry ∈ controller.orderedEndpoints,
      (roundModel .textual (sources.flatMap scan)).resource? key entry.1 = some entry.2 := by
    intro entry hentry
    rw [Model.resource?, hcontroller, Option.bind_some]
    exact Registry.get?_eq_some_iff.2 (List.mem_mergeSort.1 hentry)
  have hclean : ∀ entry ∈ controller.orderedEndpoints, entry.2.IsClean := fun entry hentry ↦
    Model.isClean_of_problems hparameters.hasNamedVariables hproblems (hresource entry hentry)
  have hendpoints := Controller.forall₂_numberEndpoints (fun entry hentry ↦
    ⟨(hclean entry hentry).mapped,
      methodName_ne_none_of_httpMethod (hresource entry hentry) (hclean entry hentry).mapped⟩) []
  have hstubbed := forall₂_comp hendpoints (forall₂_of_mapM_eq_ok hmethods)
  refine ((List.forall₂_and_left _ _).2 ⟨hresource, hstubbed⟩).imp ?_
  rintro entry lines ⟨hentry, endpoint, hsame, hlines⟩
  have hrenderable := hparameters.renderable hentry
  obtain ⟨raw, hraw, hnormalize⟩ := resource?_roundModel.1 hentry
  have hformat : raw.formatArguments = [] := by
    obtain ⟨-, rfl⟩ := Model.resource?_summary.1 hraw
    rfl
  have hentryClean :=
    Model.isClean_of_problems hparameters.hasNamedVariables hproblems hentry
  refine ⟨raw, ?_, ?_⟩
  · rw [← hraw]
    exact congrArg (Model.resource? · key entry.1) (Model.foldAll_summary [] (sources.flatMap scan))
  · rw [← hsame] at hrenderable
    rw [← hnormalize] at hentryClean hsame ⊢
    exact hentryClean.isStubbedBy hformat (hasTypedVariables_summary hraw) hsame hrenderable hlines

/-- A variable whose placeholder stands twice in the template. -/
theorem checked_stubs_faithful_repeated :
    let sources := ["@RestController class A \x7b
      @GetMapping(\"/\x7bid\x7d/\x7bid\x7d\") String f(@PathVariable(\"id\") Long a) \x7b return a; \x7d \x7d"]
    let model := roundModel .textual (sources.flatMap scan)
    let raw : Resource :=
      { methodName := some "F", httpMethod := some .get, responseType := some "String",
        template := some "/\x7bid\x7d/\x7bid\x7d", hasPathVariable := true,
        pathVariables := .ofList [(some "a", ⟨some "a", some "Long", some "id"⟩)] }
    model.problems = .ok ∅ ∧
    (model.controllers.entries.map fun entry ↦ Model.stubPath {} entry.1 entry.2) =
      ["AStub.java"] ∧
    ∃ files head lines, model.stubFiles {} = .ok files ∧
      files.get? "AStub.java" = some (fileText (head ++ "" :: lines ++ ["\x7d"])) ∧
      raw.IsStubbedBy (raw.normalize .textual) lines := by
  intro sources model raw
  let controller : Controller :=
    { packageName := some "", resources := .ofList [("A.f(Long)", raw.normalize .textual)] }
  have hmodel : model = ⟨.ofList [("A", controller)]⟩ := by decide +kernel
  have hproblems : model.problems = .ok ∅ := by
    rw [hmodel]
    decide +kernel
  have hpaths : (model.controllers.entries.map fun entry ↦ Model.stubPath {} entry.1 entry.2) =
      ["AStub.java"] := by
    rw [hmodel]
    decide +kernel
  have hcontroller : model.controller? "A" = some controller := by
    rw [hmodel]
    rfl
  have hraw : ((∅ : Model).foldAll (sources.flatMap scan)).resource? "A" "A.f(Long)" =
      some raw := by
    decide +kernel
  have hpath : Model.stubPath {} "A" controller = "AStub.java" := by decide +kernel
  have hordered : controller.orderedEndpoints = [("A.f(Long)", raw.normalize .textual)] :=
    List.mergeSort_of_pairwise (by decide +kernel)
  have hnodup : (model.controllers.entries.map fun entry ↦
      Model.stubPath {} entry.1 entry.2).Nodup := by
    rw [hpaths]
    exact List.nodup_singleton _
  obtain ⟨files, hfiles, hstubs⟩ := checked_stubs_faithful hproblems hnodup
  obtain ⟨packageName, simpleName, methods, hget, hmethods⟩ := hstubs "A" controller hcontroller
  rw [hordered] at hmethods
  cases hmethods with
  | cons hfirst hrest =>
    cases hrest
    obtain ⟨raw', hraw', hstubbed⟩ := hfirst
    rw [hraw, Option.some.injEq] at hraw'
    rw [hpath, List.flatMap_cons, List.flatMap_nil, List.append_nil] at hget
    subst hraw'
    exact ⟨hproblems, hpaths, files, _, _, hfiles, hget, hstubbed⟩

end EndpointStubs
