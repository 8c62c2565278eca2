import EndpointStubs.Proofs.DeclaredTypes
import EndpointStubs.Proofs.ModelOrder
import EndpointStubs.Proofs.ProperTemplates
import EndpointStubs.Proofs.RoundOfSources
import EndpointStubs.Proofs.TextRuns

/-!
# The check names the problems that there are

The check sees the normalized template and the recorded arguments only. Where
the raw template is proper and the placeholders have no braces, what it says is
what there is to say about the facts: whether a route addressed the endpoint,
which groups of the raw template no path variable claims, and which path
variables have no group of their own. It cannot say the name of a variable that
has none. The keys of endpoints of sources start with the name of their type, so
that each endpoint with problems has an entry of its own.
-/

namespace EndpointStubs

/-- The entries whose placeholder is none of the groups, or is claimed by a later entry too. -/
def unplacedAmong (groups : List (List Char)) :
    List (Option String × Argument) → List (Option String)
  | [] => []
  | (name, v) :: later =>
    if (∃ group ∈ groups, v.placeholder = some (.ofList group)) ∧
        ∀ entry ∈ later, entry.2.placeholder ≠ v.placeholder then
      unplacedAmong groups later
    else name :: unplacedAmong groups later

namespace Resource

/-- A path variable has the group as its placeholder. -/
def claims (resource : Resource) (group : List Char) : Bool :=
  resource.pathVariables.values.any (·.placeholder = some (.ofList group))

theorem claims_iff {resource : Resource} {group : List Char} :
    resource.claims group = true ↔ String.ofList group ∈ resource.placeholderNames := by
  simp [claims, placeholderNames]

/-- A variable is recorded if it is the last one with some group as its placeholder. -/
theorem mem_argumentOrder_iff {raw : Resource} {order : VariableOrder} {ps : List Piece}
    (hproper : ∀ v ∈ raw.pathVariables.values, v.HasProperPlaceholder)
    (hps : ∀ piece ∈ ps, piece.IsProper) {name : Option String} :
    name ∈ argumentOrder order raw.placeholders (ps.flatMap Piece.chars) ↔
      ∃ group ∈ groupNames ps, raw.lastNamed? (.ofList group) = some name := by
  have htextual : name ∈ argumentOrder .textual raw.placeholders (ps.flatMap Piece.chars) ↔
      ∃ group ∈ groupNames ps, raw.lastNamed? (.ofList group) = some name := by
    simp only [argumentOrder, List.mem_filterMap, get?_placeholders_eq_lastNamed?,
      mem_bracedGroups_flatMap_chars hps]
    refine exists_congr fun group ↦ ⟨fun h ↦ ⟨h.1.1, h.2⟩, fun h ↦ ⟨⟨h.1, ?_⟩, h.2⟩⟩
    rintro rfl
    have hmem := isSome_lastNamed?_iff.1 (Option.isSome_of_eq_some h.2)
    exact (isProper_of_mem_placeholderNames hproper hmem).1 rfl
  cases order with
  | textual => exact htextual
  | declaration => rw [← (argumentOrder_perm hproper _).mem_iff, htextual]

section Named

variable {raw : Resource}
  (hnamed : ∀ name v, raw.pathVariables.get? name = some v → v.name = name)
include hnamed

/-- The variable that is recorded for a placeholder is the last one that has it. -/
theorem lastNamed?_eq_some_iff {before later : List (Option String × Argument)}
    {name : Option String} {v : Argument} {placeholder : String}
    (hentries : raw.pathVariables.entries = before ++ (name, v) :: later) :
    raw.lastNamed? placeholder = some name ↔
      v.placeholder = some placeholder ∧
        ∀ entry ∈ later, entry.2.placeholder ≠ some placeholder := by
  have hname : ∀ entry ∈ raw.pathVariables.entries, entry.2.name = entry.1 := fun entry hentry ↦
    hnamed _ _ (Registry.get?_eq_some_iff.2 hentry)
  have hnodup := raw.pathVariables.nodup_keys
  rw [hentries] at hname
  rw [hentries, List.map_append, List.map_cons, List.nodup_append, List.nodup_cons] at hnodup
  obtain ⟨-, ⟨hlaterKeys, -⟩, hbeforeKeys⟩ := hnodup
  have hvalues : raw.pathVariables.values.reverse =
      (later.map Prod.snd).reverse ++ v :: (before.map Prod.snd).reverse := by
    rw [Registry.values, hentries]
    simp
  rw [lastNamed?, hvalues, List.find?_append]
  cases hlater : (later.map Prod.snd).reverse.find? (·.placeholder = some placeholder) with
  | some w =>
    obtain ⟨entry, hentry, rfl⟩ :=
      List.mem_map.1 (List.mem_reverse.1 (List.mem_of_find?_eq_some hlater))
    have hplaceholder : entry.2.placeholder = some placeholder := by
      simpa using List.find?_some hlater
    have hkey : entry.2.name = entry.1 := hname entry (by simp [hentry])
    have hmem : entry.1 ∈ later.map Prod.fst := List.mem_map_of_mem hentry
    have hne : entry.1 ≠ name := fun heq ↦ hlaterKeys (heq ▸ hmem)
    rw [Option.some_or, Option.map_some, Option.some.injEq, hkey]
    exact ⟨fun heq ↦ absurd heq hne, fun hall ↦ absurd hplaceholder (hall.2 entry hentry)⟩
  | none =>
    have hnone : ∀ entry ∈ later, entry.2.placeholder ≠ some placeholder := fun entry hentry ↦ by
      simpa using List.find?_eq_none.1 hlater entry.2
        (List.mem_reverse.2 (List.mem_map_of_mem hentry))
    rw [Option.none_or, List.find?_cons]
    by_cases hv : v.placeholder = some placeholder
    · simp only [hv, decide_true, Option.map_some, true_and]
      exact ⟨fun _ ↦ hnone, fun _ ↦ congrArg some (hname (name, v) (by simp))⟩
    · simp only [hv, decide_false, false_and, iff_false]
      intro hfound
      obtain ⟨w, hw, heq⟩ := Option.map_eq_some_iff.1 hfound
      obtain ⟨entry, hentry, rfl⟩ :=
        List.mem_map.1 (List.mem_reverse.1 (List.mem_of_find?_eq_some hw))
      rw [hname entry (by simp [hentry])] at heq
      exact hbeforeKeys entry.1 (List.mem_map_of_mem hentry) name List.mem_cons_self heq

/-- The variables that are not recorded are those without a group of their own. -/
theorem filter_not_mem_argumentOrder {order : VariableOrder} {ps : List Piece}
    (hproper : ∀ v ∈ raw.pathVariables.values, v.HasProperPlaceholder)
    (hps : ∀ piece ∈ ps, piece.IsProper) :
    (raw.pathVariables.keys.filter fun name ↦
        !(argumentOrder order raw.placeholders (ps.flatMap Piece.chars)).contains name) =
      unplacedAmong (groupNames ps) raw.pathVariables.entries := by
  have hrest (before later : List (Option String × Argument))
      (hentries : raw.pathVariables.entries = before ++ later) :
      ((later.map Prod.fst).filter fun name ↦
          !(argumentOrder order raw.placeholders (ps.flatMap Piece.chars)).contains name) =
        unplacedAmong (groupNames ps) later := by
    induction later generalizing before with
    | nil => rfl
    | cons entry later ih =>
      obtain ⟨name, v⟩ := entry
      have hmem : name ∈ argumentOrder order raw.placeholders (ps.flatMap Piece.chars) ↔
          (∃ group ∈ groupNames ps, v.placeholder = some (.ofList group)) ∧
            ∀ entry ∈ later, entry.2.placeholder ≠ v.placeholder := by
        rw [mem_argumentOrder_iff hproper hps]
        simp only [lastNamed?_eq_some_iff hnamed hentries]
        constructor
        · rintro ⟨group, hgroup, hv, hlater⟩
          exact ⟨⟨group, hgroup, hv⟩, hv ▸ hlater⟩
        · rintro ⟨⟨group, hgroup, hv⟩, hlater⟩
          exact ⟨group, hgroup, hv, hv ▸ hlater⟩
      have hnext := ih (before ++ [(name, v)]) (by rw [hentries, List.append_assoc]; rfl)
      rw [List.map_cons, List.filter_cons, unplacedAmong, hnext]
      by_cases hplaced : name ∈ argumentOrder order raw.placeholders (ps.flatMap Piece.chars)
      · rw [if_pos (hmem.1 hplaced), if_neg (by simpa using hplaced)]
      · rw [if_neg (mt hmem.2 hplaced), if_pos (by simpa using hplaced)]
  exact hrest [] _ rfl

end Named

section Check

variable {raw : Resource} {order : VariableOrder}

/-- The groups that no path variable claims, from the left. -/
def unclaimedGroups (raw : Resource) (ps : List Piece) : List (List Char) :=
  (groupNames ps).filter (!raw.claims ·)

/-- The path variables without a group of their own, in the order of the registry. -/
def unplacedNames (raw : Resource) (ps : List Piece) : List (Option String) :=
  unplacedAmong (groupNames ps) raw.pathVariables.entries

/-- Without path variables there is nothing to claim a group or to be placed in one. -/
theorem of_isEmpty (h : raw.pathVariables.isEmpty = true) (ps : List Piece) :
    raw.unclaimedGroups ps = groupNames ps ∧ raw.unplacedNames ps = [] ∧
      raw.unplacedVariables = [] := by
  have hentries : raw.pathVariables.entries = [] := List.isEmpty_iff.1 h
  refine ⟨?_, ?_, ?_⟩
  · simp [unclaimedGroups, claims, Registry.values, hentries]
  · rw [unplacedNames, hentries, unplacedAmong]
  · rw [unplacedVariables, Registry.keys, hentries]
    rfl

/-- The keys under which the placeholders are replaced are the claimed groups. -/
theorem any_keys_placeholders_eq_claims
    (hproper : ∀ v ∈ raw.pathVariables.values, v.HasProperPlaceholder) (group : List Char) :
    (raw.placeholders.keys.any fun key ↦ group == (nameText key).toList) = raw.claims group := by
  rw [Bool.eq_iff_iff, claims_iff, keys_placeholders hproper, List.any_eq_true]
  constructor
  · rintro ⟨key, hkey, hgroup⟩
    obtain ⟨placeholder, hmem, rfl⟩ := List.mem_map.1 hkey
    rw [eq_of_beq hgroup, nameText, Option.getD_some, String.ofList_toList]
    exact List.mem_eraseDups.1 hmem
  · intro hmem
    refine ⟨_, List.mem_map_of_mem (List.mem_eraseDups.2 hmem), ?_⟩
    rw [nameText, Option.getD_some, String.toList_ofList, beq_self_eq_true]

/-- Normalizing replaces the claimed groups of a proper template and nothing else. -/
theorem normalize_of_isProper (order : VariableOrder)
    (hproper : ∀ v ∈ raw.pathVariables.values, v.HasProperPlaceholder) {ps : List Piece}
    (hps : ∀ piece ∈ ps, piece.IsProper)
    (htemplate : raw.template = some (.ofList (ps.flatMap Piece.chars)))
    (hempty : raw.pathVariables.isEmpty = false) :
    raw.normalize order = { raw with
      template := some (.ofList (ps.flatMap (Piece.filled raw.claims)))
      formatArguments := argumentOrder order raw.placeholders (ps.flatMap Piece.chars) } := by
  have hkeys : ∀ key ∈ raw.placeholders.keys, ∀ c ∈ (nameText key).toList, isBrace c = false := by
    rw [keys_placeholders hproper]
    intro key hkey
    obtain ⟨placeholder, hmem, rfl⟩ := List.mem_map.1 hkey
    exact (isProper_of_mem_placeholderNames hproper (List.mem_eraseDups.1 hmem)).2
  rw [normalize, htemplate]
  simp only [hempty, Bool.false_eq_true, if_false, String.toList_ofList]
  rw [substitutePlaceholders_flatMap_chars hps hkeys]
  simp only [any_keys_placeholders_eq_claims hproper]

/-- What the check sees in the normalized resource is what there is in the raw template. -/
theorem seen_normalize (order : VariableOrder)
    (hnamed : ∀ name v, raw.pathVariables.get? name = some v → v.name = name)
    (hproper : ∀ v ∈ raw.pathVariables.values, v.HasProperPlaceholder) {ps : List Piece}
    (hps : ∀ piece ∈ ps, piece.IsProper)
    (htemplate : raw.template = some (.ofList (ps.flatMap Piece.chars))) :
    ∃ normalized, (raw.normalize order).template = some normalized ∧
      bracedGroups true normalized.toList = raw.unclaimedGroups ps ∧
      (raw.normalize order).unplacedVariables = raw.unplacedNames ps := by
  cases hempty : raw.pathVariables.isEmpty with
  | true =>
    obtain ⟨hgroups, hnames, hvariables⟩ := of_isEmpty hempty ps
    rw [normalize_eq_self (.inr hempty) order, hgroups, hnames]
    refine ⟨_, htemplate, ?_, hvariables⟩
    rw [String.toList_ofList, bracedGroups_eq_filterMap_pieces, pieces_flatMap_chars hps]
    simp [groupNames]
  | false =>
    rw [normalize_of_isProper order hproper hps htemplate hempty]
    refine ⟨_, rfl, ?_, filter_not_mem_argumentOrder hnamed hproper hps⟩
    rw [String.toList_ofList, bracedGroups_flatMap_filled hps, unclaimedGroups]

/-- The problems of an endpoint with a proper raw template. -/
theorem problems_normalize
    (hnamed : ∀ name v, raw.pathVariables.get? name = some v → v.name = name)
    (hproper : ∀ v ∈ raw.pathVariables.values, v.HasProperPlaceholder) {ps : List Piece}
    (hps : ∀ piece ∈ ps, piece.IsProper)
    (htemplate : raw.template = some (.ofList (ps.flatMap Piece.chars))) :
    (raw.normalize order).problems =
      if none ∈ raw.unplacedNames ps then .error .unnamedVariable
      else
        .ok ((if raw.httpMethod.isNone then [.noMapping] else []) ++
          ((if (raw.unclaimedGroups ps).isEmpty then []
              else [.unresolved (raw.unclaimedGroups ps)]) ++
            if (raw.unplacedNames ps).isEmpty then []
            else [.unplaced (sortTexts ((raw.unplacedNames ps).filterMap id))])) := by
  obtain ⟨normalized, hnormalized, hgroups, hunplaced⟩ :=
    seen_normalize order hnamed hproper hps htemplate
  rw [problems, hnormalized, httpMethod_normalize]
  dsimp only
  rw [templateProblems, hgroups, hunplaced]
  by_cases hnone : none ∈ raw.unplacedNames ps
  · rw [if_pos hnone]
    simp only [List.contains_iff_mem, hnone, if_true]
    rfl
  · rw [if_neg hnone]
    simp only [List.contains_iff_mem, hnone, if_false]
    rfl

end Check

end Resource

/-! ## Messages -/

/-- The texts behind a lead, if there are any. -/
def listedAfter (lead : String) (texts : List String) : List String :=
  if texts.isEmpty then [] else [lead ++ ", ".intercalate texts]

/-- The messages of the check, if it does not fail. -/
def Resource.messages (resource : Resource) : Except CheckError (List String) :=
  resource.problems.map fun found ↦ found.map Problem.message

/-- Sorting the names loses none of them if all variables have one. -/
theorem isEmpty_sortTexts_filterMap {names : List (Option String)} (h : none ∉ names) :
    (sortTexts (names.filterMap id)).isEmpty = names.isEmpty := by
  have hlength : (sortTexts (names.filterMap id)).length = (names.filterMap id).length :=
    List.length_mergeSort _
  cases names with
  | nil => rw [List.isEmpty_iff_length_eq_zero.2 hlength]; rfl
  | cons name names =>
    cases name with
    | none => exact absurd List.mem_cons_self h
    | some text =>
      rw [Bool.eq_iff_iff, List.isEmpty_iff_length_eq_zero, hlength]
      simp

/-- The messages for an endpoint with a proper raw template. -/
theorem Resource.messages_normalize {raw : Resource} {order : VariableOrder}
    (hnamed : ∀ name v, raw.pathVariables.get? name = some v → v.name = name)
    (hproper : ∀ v ∈ raw.pathVariables.values, v.HasProperPlaceholder) {ps : List Piece}
    (hps : ∀ piece ∈ ps, piece.IsProper)
    (htemplate : raw.template = some (.ofList (ps.flatMap Piece.chars))) :
    (raw.normalize order).messages =
      if none ∈ raw.unplacedNames ps then .error .unnamedVariable
      else
        .ok ((if raw.httpMethod.isNone then ["no GET or POST mapping"] else []) ++
          listedAfter "unresolved placeholders "
            ((raw.unclaimedGroups ps).map fun group ↦ .ofList (braced group)) ++
          listedAfter "path variables not in template: "
            (sortTexts ((raw.unplacedNames ps).filterMap id))) := by
  rw [messages, problems_normalize hnamed hproper hps htemplate]
  by_cases hnone : none ∈ raw.unplacedNames ps
  · rw [if_pos hnone, if_pos hnone]
    rfl
  · have hmapping : ((if raw.httpMethod.isNone then [.noMapping] else []).map Problem.message) =
        if raw.httpMethod.isNone then ["no GET or POST mapping"] else [] := by
      split <;> rfl
    have hunclaimed : ((if (raw.unclaimedGroups ps).isEmpty then []
          else [.unresolved (raw.unclaimedGroups ps)]).map Problem.message) =
        listedAfter "unresolved placeholders "
          ((raw.unclaimedGroups ps).map fun group ↦ .ofList (braced group)) := by
      rw [listedAfter, List.isEmpty_map]
      split <;> rfl
    have hunplaced : ((if (raw.unplacedNames ps).isEmpty then []
          else [.unplaced (sortTexts ((raw.unplacedNames ps).filterMap id))]).map
            Problem.message) =
        listedAfter "path variables not in template: "
          (sortTexts ((raw.unplacedNames ps).filterMap id)) := by
      rw [listedAfter, isEmpty_sortTexts_filterMap hnone]
      split <;> rfl
    rw [if_neg hnone, if_neg hnone]
    change Except.ok (List.map Problem.message _) = _
    rw [List.map_append, List.map_append, hmapping, hunclaimed, hunplaced, List.append_assoc]

/-- The messages for an endpoint without a template. -/
theorem Resource.messages_normalize_of_eq_none {raw : Resource} (order : VariableOrder)
    (htemplate : raw.template = none) :
    (raw.normalize order).messages =
      .ok ((if raw.httpMethod.isNone then ["no GET or POST mapping"] else []) ++
        if raw.pathVariables.isEmpty then []
        else ["path variables declared but no path template"]) := by
  rw [normalize_eq_self (.inl htemplate), messages, problems, htemplate]
  cases raw.httpMethod.isNone <;> cases raw.pathVariables.isEmpty <;> rfl

/-- The fact maps the endpoint. -/
def Fact.isRouteOf (controller key : String) (fact : Fact) : Bool :=
  fact.isRoute && fact.controller = controller && fact.methodKey = some key

/-- The first message is there unless some route addressed the endpoint. -/
def mappingMessages (controller key : String) (facts : List Fact) : List String :=
  if facts.any (·.isRouteOf controller key) then [] else ["no GET or POST mapping"]

/-- An endpoint is mapped if some route addressed it. -/
theorem isNone_httpMethod {facts : List Fact} {controller key : String} {raw : Resource}
    (hraw : (Model.summary facts).resource? controller key = some raw) :
    raw.httpMethod.isNone = !facts.any (·.isRouteOf controller key) := by
  obtain ⟨-, rfl⟩ := Model.resource?_summary.1 hraw
  rw [Bool.eq_iff_iff, Option.isNone_iff_eq_none, Bool.not_eq_true', ← Bool.not_eq_true,
    List.any_eq_true, Resource.summary, lastSome_eq_none_iff]
  constructor
  · rintro hnone ⟨fact, hmem, haddressed⟩
    simp only [Fact.isRouteOf, Bool.and_eq_true, decide_eq_true_eq] at haddressed
    obtain ⟨⟨hfact, hcontroller⟩, hkey⟩ := haddressed
    have habout := mem_endpointFacts.2
      ⟨hmem, hcontroller, (Fact.endpointKey?_of_isRoute hfact).trans hkey⟩
    rw [Fact.isRoute, hnone fact (List.mem_filter.2 ⟨habout, hfact⟩)] at hfact
    cases hfact
  · intro hnot fact hmem
    obtain ⟨habout, hfact⟩ := List.mem_filter.1 hmem
    obtain ⟨hmem, hcontroller, hkey⟩ := mem_endpointFacts.1 habout
    refine absurd ⟨fact, hmem, ?_⟩ hnot
    simp only [Fact.isRouteOf, Bool.and_eq_true, decide_eq_true_eq]
    exact ⟨⟨hfact, hcontroller⟩, (Fact.endpointKey?_of_isRoute hfact).symm.trans hkey⟩

/-- The name of the type is found in the key: it ends before the last dot in front of the first
parenthesis. -/
theorem controller_eq_of_methodKey_eq {controller other : String} {m n : Java.Method}
    (hcontroller : ∀ c ∈ controller.toList, Text.isWordOrDot c = true)
    (hother : ∀ c ∈ other.toList, Text.isWordOrDot c = true) (hm : IsName m.name)
    (hn : IsName n.name) (h : methodKey controller m = methodKey other n) :
    controller = other := by
  have hparenthesis {c : Char} (hc : Text.isWordOrDot c = true) : (c != '(') = true := by
    rw [bne_iff_ne]
    rintro rfl
    exact absurd hc (by decide)
  have hfront {controller : String} {m : Java.Method} (hm : IsName m.name)
      (hcontroller : ∀ c ∈ controller.toList, Text.isWordOrDot c = true) :
      Text.splitTrailing Text.isWord ((methodKey controller m).toList.takeWhile (· != '(')) =
        (controller.toList ++ ['.'], m.name.toList) := by
    have hname : ∀ c ∈ controller.toList ++ ['.'] ++ m.name.toList, (c != '(') = true := by
      intro c hc
      rcases List.mem_append.1 hc with hc | hc
      · rcases List.mem_append.1 hc with hc | hc
        · exact hparenthesis (hcontroller c hc)
        · rw [List.mem_singleton.1 hc]
          decide
      · exact hparenthesis (by rw [Text.isWordOrDot, hm.2 c hc, Bool.true_or])
    have hkey : ∃ rest, (methodKey controller m).toList =
        (controller.toList ++ ['.'] ++ m.name.toList) ++ '(' :: rest := by
      simp [methodKey]
    obtain ⟨rest, hkey⟩ := hkey
    rw [hkey, Text.takeWhile_append_stop hname (by simp), Text.splitTrailing_append_stop
      (by simp; decide) hm.2]
  have hsplit := hfront hm hcontroller
  rw [h, hfront hn hother, Prod.mk.injEq] at hsplit
  exact String.toList_inj.1 (List.append_cancel_right hsplit.1.symm)

/-- No two controllers of sources share the key of an endpoint. -/
theorem hasUniqueKeys_scan (sources : List String) (order : VariableOrder) :
    (roundModel order (sources.flatMap scan)).HasUniqueKeys := by
  have hdeclared {controller key : String} {resource : Resource}
      (h : (roundModel order (sources.flatMap scan)).resource? controller key = some resource) :
      (∀ c ∈ controller.toList, Text.isWordOrDot c = true) ∧
        ∃ m : Java.Method, IsName m.name ∧ methodKey controller m = key := by
    obtain ⟨raw, hraw, -⟩ := resource?_roundModel.1 h
    obtain ⟨fact, hfact⟩ := List.exists_mem_of_ne_nil _ (Model.resource?_summary.1 hraw).1
    obtain ⟨m, hm, hkey, -⟩ := exists_declaredMethod_of_mem_endpointFacts hfact
    obtain ⟨hmem, hcontroller, -⟩ := mem_endpointFacts.1 hfact
    obtain ⟨source, hsource, hscan⟩ := List.mem_flatMap.1 hmem
    obtain ⟨type, htype, habout⟩ := exists_declaredType_of_mem_scan hscan
    obtain ⟨other, -, hmethod⟩ := List.mem_flatMap.1 hm
    rw [← hcontroller, habout.controller]
    refine ⟨(hasNames_of_mem_declaredTypes htype).isWordOrDot_qualifiedName, m,
      (hasNames_of_mem_declaredMethods hmethod).name, ?_⟩
    rw [← habout.controller, hcontroller, hkey]
  intro controller other key resource resource' hresource hresource'
  obtain ⟨hcontroller, m, hm, hkey⟩ := hdeclared hresource
  obtain ⟨hother, n, hn, hkey'⟩ := hdeclared hresource'
  exact controller_eq_of_methodKey_eq hcontroller hother hm hn (hkey.trans hkey'.symm)

/-- What the check says of a normalized endpoint is what there is to say of its facts and its raw
template, in either order of the path variables. If the raw template is proper and the placeholders
of the path variables are texts with some character and without braces, the messages are: that no
route addressed the endpoint; the groups that no path variable claims, from the left; and the names
of the path variables whose placeholder is no group or is claimed by a later one, sorted. The check
fails if one of these variables has no name, and says nothing else otherwise. Without a template it
says so if there are path variables. In a model of sources no two controllers share the key of an
endpoint, no check fails, and there is one entry for each endpoint that has problems. -/
theorem check_names_exact_problems (order : VariableOrder) :
    (∀ facts controller key raw,
      ((∅ : Model).foldAll facts).resource? controller key = some raw →
      ∃ resource, (roundModel order facts).resource? controller key = some resource ∧
        (raw.template = none →
          resource.messages = .ok (mappingMessages controller key facts ++
            if raw.pathVariables.isEmpty then []
            else ["path variables declared but no path template"])) ∧
        ∀ ps : List Piece, (∀ piece ∈ ps, piece.IsProper) →
          raw.template = some (.ofList (ps.flatMap Piece.chars)) →
          (∀ v ∈ raw.pathVariables.values, v.HasProperPlaceholder) →
          resource.messages =
            if none ∈ raw.unplacedNames ps then .error .unnamedVariable
            else
              .ok (mappingMessages controller key facts ++
                listedAfter "unresolved placeholders "
                  ((raw.unclaimedGroups ps).map fun group ↦ .ofList (braced group)) ++
                listedAfter "path variables not in template: "
                  (sortTexts ((raw.unplacedNames ps).filterMap id)))) ∧
    ∀ sources : List String,
      let model := roundModel order (sources.flatMap scan)
      model.HasUniqueKeys ∧
        (∀ controller key resource, model.resource? controller key = some resource →
          resource.problems = .ok resource.listedProblems) ∧
        ∃ found, model.problems = .ok found ∧
          found.entries = (model.endpoints.map fun (key, resource) ↦
            (key, resource.listedProblems)).filter fun (_, problems) ↦ !problems.isEmpty := by
  refine ⟨fun facts controller key raw hraw ↦ ?_, fun sources ↦ ?_⟩
  · have hsummary : (∅ : Model).foldAll facts = Model.summary facts :=
      Model.foldAll_summary [] facts
    rw [hsummary] at hraw
    have hmapping : (if raw.httpMethod.isNone then ["no GET or POST mapping"] else []) =
        mappingMessages controller key facts := by
      rw [isNone_httpMethod hraw, mappingMessages]
      cases facts.any (·.isRouteOf controller key) <;> rfl
    refine ⟨_, resource?_roundModel.2 ⟨raw, hraw, rfl⟩, fun htemplate ↦ ?_,
      fun ps hps htemplate hproper ↦ ?_⟩
    · rw [Resource.messages_normalize_of_eq_none order htemplate, hmapping]
    · rw [Resource.messages_normalize (Model.name_of_get?_pathVariables hraw) hproper hps
        htemplate, hmapping]
  · have hnamed : (roundModel order (sources.flatMap scan)).HasNamedVariables :=
      (hasNamedParameters_scan sources).hasNamedVariables
    have hunique := hasUniqueKeys_scan sources order
    refine ⟨hunique, fun controller key resource hresource ↦
      Resource.problems_eq_listedProblems (hnamed controller key resource hresource),
      _, Model.problems_eq hnamed, ?_⟩
    refine Registry.entries_ofList (List.Nodup.sublist (List.filter_sublist.map _) ?_)
    rw [List.map_map]
    exact hunique.nodup_endpoints

section Samples

/-- A mapping of a method of the controller `A` to the path. -/
def sampleRoute (path : String) : Fact where
  kind := .getRoute
  annotationName := "GetMapping"
  element := "A.f()"
  controller := "A"
  methodKey := some "A.f()"
  methodName := some "f"
  path := [path]

/-- A path variable of the method. -/
def sampleVariable (name givenName : Option String) : Fact where
  kind := .pathVariable
  annotationName := "PathVariable"
  element := "x"
  controller := "A"
  methodKey := some "A.f()"
  name := name
  givenName := givenName

/-- The placeholder of one variable is claimed by the next one, that of the third one is no group,
and that of the last one holds a percent sign. -/
theorem check_names_exact_problems_shared :
    let facts := [sampleRoute "/\x7bid\x7d/\x7bx\x7d/\x7b5%\x7d\x7b\x7d/\x7bx\x7d",
      sampleVariable (some "c") (some "id"), sampleVariable (some "d") (some "id"),
      sampleVariable (some "b") (some ""), sampleVariable (some "a") (some "5%")]
    ∃ resource, (roundModel .declaration facts).resource? "A" "A.f()" = some resource ∧
      resource.messages = .ok ["unresolved placeholders \x7bx\x7d, \x7b\x7d, \x7bx\x7d",
        "path variables not in template: b, c"] := by
  intro facts
  let registered : Registry (Option String) Argument := .ofList
    [(some "c", ⟨some "c", none, some "id"⟩), (some "d", ⟨some "d", none, some "id"⟩),
      (some "b", ⟨some "b", none, some ""⟩), (some "a", ⟨some "a", none, some "5%"⟩)]
  let raw : Resource :=
    { methodName := some "F", httpMethod := some .get, hasPathVariable := true,
      template := some "/\x7bid\x7d/\x7bx\x7d/\x7b5%\x7d\x7b\x7d/\x7bx\x7d",
      pathVariables := registered }
  have hraw : ((∅ : Model).foldAll facts).resource? "A" "A.f()" = some raw := by decide +kernel
  have hproper : ∀ v ∈ raw.pathVariables.values, v.HasProperPlaceholder := by decide +kernel
  let ps := pieces "/\x7bid\x7d/\x7bx\x7d/\x7b5%\x7d\x7b\x7d/\x7bx\x7d".toList
  obtain ⟨resource, hresource, -, hmessages⟩ :=
    (check_names_exact_problems .declaration).1 facts "A" "A.f()" raw hraw
  refine ⟨resource, hresource, ?_⟩
  have hunplaced : raw.unplacedNames ps = [some "c", some "b"] := by decide +kernel
  have hunclaimed : raw.unclaimedGroups ps = [['x'], [], ['x']] := by decide +kernel
  have hsorted : sortTexts ["c", "b"] = ["b", "c"] :=
    (sortTexts_eq_of_perm (List.Perm.swap "b" "c" [])).trans
      (List.mergeSort_of_pairwise (by decide +kernel))
  have hlisted : sortTexts ([some "c", some "b"].filterMap id) = ["b", "c"] := hsorted
  rw [hmessages ps (by decide +kernel) (by decide +kernel) hproper, hunplaced, hunclaimed,
    hlisted]
  decide +kernel

/-- A variable without a name cannot be listed, whatever its placeholder is. -/
theorem check_fails_without_name :
    let facts := [sampleRoute "/y", sampleVariable none (some "x")]
    ∃ raw, ((∅ : Model).foldAll facts).resource? "A" "A.f()" = some raw ∧
      (∀ v ∈ raw.pathVariables.values, v.HasProperPlaceholder) ∧
      raw.template = some (.ofList ([.char '/', .char 'y'].flatMap Piece.chars)) ∧
      ∀ order, ∃ resource, (roundModel order facts).resource? "A" "A.f()" = some resource ∧
        resource.messages = .error .unnamedVariable := by
  intro facts
  let raw : Resource :=
    { methodName := some "F", httpMethod := some .get, hasPathVariable := true,
      template := some "/y", pathVariables := .ofList [(none, ⟨none, none, some "x"⟩)] }
  refine ⟨raw, by decide +kernel, by decide +kernel, by decide +kernel,
    fun order ↦ ⟨raw.normalize order, ?_, ?_⟩⟩
  · cases order <;> decide +kernel
  · cases order <;> decide +kernel

end Samples

end EndpointStubs
