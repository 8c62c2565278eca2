import EndpointStubs.Command.Run
import EndpointStubs.Proofs.EndpointFacts
import Mathlib.Data.List.Basic

/-!
# Repeated facts

What a list of facts describes depends only on which facts occur, on the order
of their first occurrences, which is the order of the registries, and on that of
their last ones, which decide what counts. So the facts of overlapping sources
do no harm: facts that come once more make the same model, whatever they
contradict, if no other facts about their controllers came in between. The same
holds of sources that are given to a command more than once. They are reported
again, though, and so is what they contradict.
-/

namespace EndpointStubs

section Occurrences

variable {α β : Type} [DecidableEq α] [DecidableEq β] {xs ys : List α}

/-- The same elements, in the same order of their first and of their last occurrences. -/
structure SameOccurrences (xs ys : List α) : Prop where
  first : xs.eraseDups = ys.eraseDups
  last : xs.reverse.eraseDups = ys.reverse.eraseDups

theorem eraseDups_append_of_subset (h : ∀ y ∈ ys, y ∈ xs) :
    (xs ++ ys).eraseDups = xs.eraseDups := by
  have hnone : ys.removeAll xs = [] := by
    refine List.filter_eq_nil_iff.2 fun y hy ↦ ?_
    simpa using h y hy
  rw [List.eraseDups_append, hnone, List.eraseDups_nil, List.append_nil]

/-- Elements that come twice each. -/
theorem sameOccurrences_flatMap_pair (xs : List α) :
    SameOccurrences (xs.flatMap fun x ↦ [x, x]) xs := by
  have hfirst (l : List α) : (l.flatMap fun x ↦ [x, x]).eraseDups = l.eraseDups := by
    induction l using List.reverseRecOn with
    | nil => rfl
    | append_singleton l x ih =>
      have hpair : (l ++ [x]).flatMap (fun x ↦ [x, x]) =
          (l.flatMap (fun x ↦ [x, x]) ++ [x]) ++ [x] := by simp
      have hmem : x ∈ l.flatMap (fun x ↦ [x, x]) ↔ x ∈ l := by simp
      rw [hpair, eraseDups_append_of_subset (by simp), eraseDups_concat, eraseDups_concat, ih]
      exact if_congr hmem rfl rfl
  refine ⟨hfirst xs, ?_⟩
  rw [List.reverse_flatMap]
  exact hfirst xs.reverse

theorem sameOccurrences_append_self (xs : List α) : SameOccurrences (xs ++ xs) xs where
  first := eraseDups_append_of_subset fun _ h ↦ h
  last := by
    rw [List.reverse_append]
    exact eraseDups_append_of_subset fun _ h ↦ h

/-- The first occurrences of what the elements stand for come from their own first ones. -/
theorem eraseDups_flatMap (f : α → List β) (xs : List α) :
    (xs.eraseDups.flatMap f).eraseDups = (xs.flatMap f).eraseDups := by
  induction xs using List.reverseRecOn with
  | nil => rfl
  | append_singleton xs x ih =>
    rw [eraseDups_concat, List.flatMap_append, List.flatMap_singleton]
    split
    · rename_i hx
      rw [ih, eraseDups_append_of_subset fun y hy ↦ List.mem_flatMap.2 ⟨x, hx, hy⟩]
    · have hnew : (f x).removeAll (xs.eraseDups.flatMap f) = (f x).removeAll (xs.flatMap f) := by
        refine List.filter_congr fun y _ ↦ ?_
        simp [List.mem_flatMap, List.mem_eraseDups]
      rw [List.flatMap_append, List.flatMap_singleton, List.eraseDups_append,
        List.eraseDups_append, ih, hnew]

theorem findSome?_eraseDups {γ : Type} (f : α → Option γ) (xs : List α) :
    xs.eraseDups.findSome? f = xs.findSome? f := by
  induction xs using List.reverseRecOn with
  | nil => rfl
  | append_singleton xs x ih =>
    rw [eraseDups_concat, List.findSome?_append]
    split
    · rename_i hx
      rw [ih]
      cases hfound : xs.findSome? f with
      | some c => rfl
      | none => simp [List.findSome?_eq_none_iff.1 hfound x hx]
    · rw [List.findSome?_append, ih]

namespace SameOccurrences

variable (h : SameOccurrences xs ys)

include h

theorem mem_iff {x : α} : x ∈ xs ↔ x ∈ ys := by
  rw [← List.mem_eraseDups, h.first, List.mem_eraseDups]

theorem flatMap (f : α → List β) : SameOccurrences (xs.flatMap f) (ys.flatMap f) where
  first := by rw [← eraseDups_flatMap, h.first, eraseDups_flatMap]
  last := by
    rw [List.reverse_flatMap, List.reverse_flatMap, ← eraseDups_flatMap, h.last,
      eraseDups_flatMap]

theorem filter (p : α → Bool) : SameOccurrences (xs.filter p) (ys.filter p) := by
  have hflatMap (l : List α) : l.filter p = l.flatMap fun x ↦ if p x then [x] else [] := by
    induction l with
    | nil => rfl
    | cons x l ih => cases hx : p x <;> simp [hx, ih]
  rw [hflatMap, hflatMap]
  exact h.flatMap _

theorem eraseDups_filterMap (f : α → Option β) :
    (xs.filterMap f).eraseDups = (ys.filterMap f).eraseDups := by
  rw [List.filterMap_eq_flatMap_toList, List.filterMap_eq_flatMap_toList]
  exact (h.flatMap _).first

theorem any_eq (p : α → Bool) : xs.any p = ys.any p := by
  rw [Bool.eq_iff_iff, List.any_eq_true, List.any_eq_true]
  simp only [h.mem_iff]

theorem isEmpty_eq : xs.isEmpty = ys.isEmpty := by
  rw [Bool.eq_iff_iff, List.isEmpty_iff, List.isEmpty_iff, List.eq_nil_iff_forall_not_mem,
    List.eq_nil_iff_forall_not_mem]
  simp only [h.mem_iff]

theorem findSome?_eq {γ : Type} (f : α → Option γ) : xs.findSome? f = ys.findSome? f := by
  rw [← findSome?_eraseDups, h.first, findSome?_eraseDups]

/-- What comes last is decided by the last occurrences. -/
theorem lastSome_eq {γ : Type} (f : α → Option γ) : lastSome f xs = lastSome f ys := by
  have hreverse (l : List α) : lastSome f l = l.reverse.findSome? f := by
    rw [lastSome, ← List.head?_reverse, ← List.filterMap_reverse, List.head?_filterMap]
  rw [hreverse, hreverse, ← findSome?_eraseDups, h.last, findSome?_eraseDups]

end SameOccurrences

omit [DecidableEq α] in
theorem Registry.grouped_eq {γ : Type} {key? : α → Option β} {value : List α → γ}
    (hkeys : (xs.filterMap key?).eraseDups = (ys.filterMap key?).eraseDups)
    (hvalue : ∀ key,
      value (xs.filter (key? · = some key)) = value (ys.filter (key? · = some key))) :
    grouped key? value xs = grouped key? value ys := by
  refine ext_get? (by rw [keys_grouped, keys_grouped, hkeys]) fun key ↦ ?_
  have hmem : key ∈ xs.filterMap key? ↔ key ∈ ys.filterMap key? := by
    rw [← List.mem_eraseDups, hkeys, List.mem_eraseDups]
  rw [get?_grouped, get?_grouped, hvalue key]
  exact if_congr hmem rfl rfl

end Occurrences

section Facts

variable {facts others : List Fact}

theorem Resource.summary_eq_of_sameOccurrences (h : SameOccurrences facts others) :
    Resource.summary facts = Resource.summary others := by
  have hparameters (kind : FactKind) :
      Registry.grouped (Fact.parameterOf? kind) Argument.summary facts =
        Registry.grouped (Fact.parameterOf? kind) Argument.summary others := by
    refine Registry.grouped_eq (h.eraseDups_filterMap _) fun name ↦ ?_
    rw [Argument.summary, (h.filter _).lastSome_eq, Argument.summary]
  have hroutes := h.filter Fact.isRoute
  have hbodies := h.filter (·.kind = .requestBody)
  simp only [Resource.summary, hroutes.lastSome_eq, hbodies.lastSome_eq, h.any_eq, hparameters]

theorem Controller.summary_eq_of_sameOccurrences (h : SameOccurrences facts others) :
    Controller.summary facts = Controller.summary others := by
  have hresources : Registry.grouped Fact.endpointKey? Resource.summary facts =
      Registry.grouped Fact.endpointKey? Resource.summary others :=
    Registry.grouped_eq (h.eraseDups_filterMap _) fun _ ↦
      Resource.summary_eq_of_sameOccurrences (h.filter _)
  have hown := h.filter (·.kind = .controller)
  simp only [Controller.summary, hown.lastSome_eq, (hown.flatMap Fact.imports).first, hresources]

/-- The first occurrences matter for all facts together, the last ones only among the facts about
one controller. -/
theorem Model.summary_eq (hfirst : facts.eraseDups = others.eraseDups)
    (hgroups : ∀ controller, SameOccurrences
      (facts.filter (·.contributesTo? = some controller))
      (others.filter (·.contributesTo? = some controller))) :
    Model.summary facts = Model.summary others := by
  have hkeys : (facts.filterMap Fact.contributesTo?).eraseDups =
      (others.filterMap Fact.contributesTo?).eraseDups := by
    rw [List.filterMap_eq_flatMap_toList, List.filterMap_eq_flatMap_toList, ← eraseDups_flatMap,
      hfirst, eraseDups_flatMap]
  rw [Model.summary, Registry.grouped_eq hkeys fun controller ↦
    Controller.summary_eq_of_sameOccurrences (hgroups controller), Model.summary]

theorem roundModel_eq_of_sameOccurrences (h : SameOccurrences facts others)
    (order : VariableOrder) : roundModel order facts = roundModel order others := by
  rw [roundModel_eq, roundModel_eq, Model.summary_eq h.first fun _ ↦ h.filter _]

/-- Facts about other controllers may come in between. -/
theorem roundModel_append_append {xs ys : List Fact}
    (h : ∀ f ∈ xs, ∀ g ∈ ys, f.controller ≠ g.controller) (order : VariableOrder) :
    roundModel order (xs ++ ys ++ xs) = roundModel order (xs ++ ys) := by
  have hfirst : (xs ++ ys ++ xs).eraseDups = (xs ++ ys).eraseDups :=
    eraseDups_append_of_subset fun f hf ↦ List.mem_append_left _ hf
  have hgroups (controller : String) : SameOccurrences
      ((xs ++ ys ++ xs).filter (·.contributesTo? = some controller))
      ((xs ++ ys).filter (·.contributesTo? = some controller)) := by
    rw [List.filter_append, List.filter_append]
    by_cases hnone : xs.filter (·.contributesTo? = some controller) = []
    · rw [hnone, List.append_nil]
      exact ⟨rfl, rfl⟩
    · obtain ⟨f, hf⟩ := List.exists_mem_of_ne_nil _ hnone
      obtain ⟨hfmem, hf⟩ := List.mem_filter.1 hf
      have hys : ys.filter (·.contributesTo? = some controller) = [] := by
        refine List.filter_eq_nil_iff.2 fun g hg hcontributes ↦ h f hfmem g hg ?_
        rw [Fact.controller_of_contributesTo? (of_decide_eq_true hf),
          Fact.controller_of_contributesTo? (of_decide_eq_true hcontributes)]
      rw [hys, List.append_nil]
      exact sameOccurrences_append_self _
  rw [roundModel_eq, roundModel_eq, Model.summary_eq hfirst hgroups]

end Facts

/-! ## Commands -/

section Results

variable {ε α β : Type} [DecidableEq α] [Inhabited β]

def failure? : Except ε β → Option ε
  | .error e => some e
  | .ok _ => none

omit [DecidableEq α] in
/-- A monadic map fails with the first failure. -/
theorem mapM_eq_findSome? (f : α → Except ε β) (xs : List α) :
    xs.mapM f = match xs.findSome? fun x ↦ failure? (f x) with
      | some e => .error e
      | none => .ok (xs.map fun x ↦ (f x).toOption.getD default) := by
  induction xs with
  | nil => rfl
  | cons x xs ih =>
    rw [List.mapM_cons, List.findSome?_cons]
    cases hx : f x with
    | error e => rfl
    | ok b =>
      have hnone : failure? (f x) = none := by rw [hx, failure?]
      simp only [← hx, hnone, ih, List.map_cons]
      cases xs.findSome? fun x ↦ failure? (f x) with
      | some e => rw [hx]; rfl
      | none => rw [hx]; rfl

theorem SameOccurrences.mapM_cases {xs ys : List α} (h : SameOccurrences xs ys)
    (f : α → Except ε β) :
    (∃ e, xs.mapM f = .error e ∧ ys.mapM f = .error e) ∨
      ∃ g : α → β, xs.mapM f = .ok (xs.map g) ∧ ys.mapM f = .ok (ys.map g) := by
  rw [mapM_eq_findSome?, mapM_eq_findSome?, h.findSome?_eq]
  cases ys.findSome? fun x ↦ failure? (f x) with
  | some e => exact .inl ⟨e, rfl, rfl⟩
  | none => exact .inr ⟨_, rfl, rfl⟩

end Results

instance : Inhabited Scanned := ⟨{}⟩

theorem scanFiles_eq_mapM (runtime : Runtime) (fs : FileSystem) (encoding : LooseText)
    (paths : List Path) :
    scanFiles runtime fs encoding paths =
      (paths.mapM (scanFile runtime fs encoding)).map fun scanned ↦
        ⟨scanned.flatMap Scanned.facts, scanned.flatMap Scanned.diagnostics⟩ := by
  induction paths with
  | nil => rfl
  | cons path paths ih =>
    rw [scanFiles, List.mapM_cons, ih]
    cases scanFile runtime fs encoding path with
    | error e => rfl
    | ok first => cases paths.mapM (scanFile runtime fs encoding) <;> rfl

/-- The outcome without the lines printed about the work. -/
def Outcome.withoutReports (outcome : Outcome) : Outcome :=
  { outcome with reports := [] }

section Commands

variable {outcome other : Outcome} (h : outcome.withoutReports = other.withoutReports)

include h

theorem withoutReports_runGenerate (settings : Settings) (verbose : Bool) {facts others : List Fact}
    (hempty : facts.isEmpty = others.isEmpty) (model : Model) :
    (runGenerate settings verbose facts model outcome).withoutReports =
      (runGenerate settings verbose others model other).withoutReports := by
  obtain ⟨fs, results, reports, failure, hasProblems⟩ := outcome
  obtain ⟨fs', results', reports', failure', hasProblems'⟩ := other
  cases h
  simp only [runGenerate, generate, hempty]
  split
  · rfl
  · simp only [Outcome.log]
    split <;> rfl

theorem withoutReports_runModel (output : Option Path) (model : Model) :
    (runModel output model outcome).withoutReports =
      (runModel output model other).withoutReports := by
  obtain ⟨fs, results, reports, failure, hasProblems⟩ := outcome
  obtain ⟨fs', results', reports', failure', hasProblems'⟩ := other
  cases h
  cases output with
  | none => rfl
  | some path =>
    simp only [runModel]
    split <;> rfl

theorem withoutReports_runCheck (model : Model) :
    (runCheck model outcome).withoutReports = (runCheck model other).withoutReports := by
  obtain ⟨fs, results, reports, failure, hasProblems⟩ := outcome
  obtain ⟨fs', results', reports', failure', hasProblems'⟩ := other
  cases h
  simp only [runCheck]
  split
  · rfl
  · split <;> rfl

end Commands

/-- A command does the same for sources that are given more often, if neither the first nor the last
occurrences change their order. -/
theorem withoutReports_runWith {sources : List Path} {invocation : Invocation}
    (h : SameOccurrences sources invocation.sources) (runtime : Runtime) (settings : Settings)
    (fs : FileSystem) :
    (runWith runtime settings { invocation with sources := sources } fs).withoutReports =
      (runWith runtime settings invocation fs).withoutReports := by
  rcases h.mapM_cases fun path ↦
      findSources runtime fs path settings.sourcePattern settings.encoding with
    ⟨e, hsources, hinvocation⟩ | ⟨find, hsources, hinvocation⟩
  · simp only [runWith, findAll, hsources, hinvocation]
  have hfiles : SameOccurrences (sources.map find).flatten (invocation.sources.map find).flatten := by
    rw [← List.flatMap_def, ← List.flatMap_def]
    exact h.flatMap find
  simp only [runWith, findAll, hsources, hinvocation, bind, Except.bind, pure, Except.pure]
  rcases hfiles.mapM_cases (scanFile runtime fs settings.encoding) with
    ⟨e, hscan, hscan'⟩ | ⟨scan, hscan, hscan'⟩
  · simp only [scanFiles_eq_mapM, hscan, hscan', Except.map]
    rfl
  have hfacts := hfiles.flatMap fun path ↦ (scan path).facts
  simp only [scanFiles_eq_mapM, hscan, hscan', Except.map, List.flatMap_map,
    roundModel_eq_of_sameOccurrences hfacts]
  cases invocation.command with
  | generate =>
    refine withoutReports_runGenerate ?_ settings _ hfacts.isEmpty_eq _
    rfl
  | model =>
    refine withoutReports_runModel ?_ _ _
    rfl
  | check =>
    refine withoutReports_runCheck ?_ _
    rfl

/-- Facts that come once more, behind facts about other controllers, change neither the model nor
the files that are generated from it, whatever they contradict. So a command does the same if all
its sources are given twice, one after the other or all over again. -/
theorem round_of_repeated_facts (order : VariableOrder) :
    (∀ xs ys : List Fact, (∀ f ∈ xs, ∀ g ∈ ys, f.controller ≠ g.controller) →
      let once := roundModel order (xs ++ ys)
      let again := roundModel order (xs ++ ys ++ xs)
      again = once ∧
        ∀ suffixes, generate suffixes (xs ++ ys ++ xs) again = generate suffixes (xs ++ ys) once) ∧
    ∀ (runtime : Runtime) (settings : Settings) (invocation : Invocation) (fs : FileSystem)
      (sources : List Path), sources = invocation.sources ++ invocation.sources ∨
          sources = invocation.sources.flatMap (fun path ↦ [path, path]) →
        (runWith runtime settings { invocation with sources := sources } fs).withoutReports =
          (runWith runtime settings invocation fs).withoutReports := by
  refine ⟨fun xs ys h ↦ ?_, fun runtime settings invocation fs sources hsources ↦ ?_⟩
  · intro once again
    have hmodel : again = once := roundModel_append_append h order
    have hempty : (xs ++ ys ++ xs).isEmpty = (xs ++ ys).isEmpty := by
      cases xs <;> simp
    refine ⟨hmodel, fun suffixes ↦ ?_⟩
    rw [hmodel, generate, generate, hempty]
  · refine withoutReports_runWith ?_ runtime settings fs
    rcases hsources with rfl | rfl
    · exact sameOccurrences_append_self _
    · exact sameOccurrences_flatMap_pair _

/-- The facts of a controller whose endpoint is mapped twice and whose parameter has two types, and
a file that is given twice. -/
theorem round_of_repeated_facts_in_conflict :
    let about kind path name typeText : Fact :=
      { kind, annotationName := "", element := "", controller := "A", methodKey := some "A.f(X)",
        methodName := some "f", path, name, typeText }
    let declared controller package : Fact :=
      { kind := .controller, annotationName := "", element := "", controller,
        packageName := some package }
    let xs : List Fact :=
      [declared "A" "p", about .getRoute ["/{x}"] none (some "X"),
        about .pathVariable [] (some "x") (some "X"), declared "A" "q",
        about .postRoute ["/y"] none none, about .pathVariable [] (some "x") (some "Y")]
    let ys : List Fact := [declared "B" "p"]
    let resource? facts := (roundModel .textual facts).resource? "A" "A.f(X)"
    let file : Path := ⟨"", ["A.java"]⟩
    let invocation sources : Invocation := ⟨.generate, sources, none, none, none, false⟩
    let fs : FileSystem :=
      ⟨(∅ : Registry Location Entry).update ["A.java"] .directory fun _ ↦
        .file "@RestController class A \x7b \x7d".toUTF8, []⟩
    resource? (xs ++ ys ++ xs) = resource? (xs ++ ys) ∧
      (resource? (xs ++ ys)).bind (·.template) = some "/y" ∧
      (runWith .standard {} (invocation [file, file]) fs).withoutReports =
        (runWith .standard {} (invocation [file]) fs).withoutReports := by
  intro about declared xs ys resource? file invocation fs
  have hround := round_of_repeated_facts .textual
  refine ⟨?_, ?_, ?_⟩
  · have hmodel := (hround.1 xs ys (by decide)).1
    exact congrArg (·.resource? "A" "A.f(X)") hmodel
  · decide +kernel
  · exact hround.2 .standard {} (invocation [file]) fs _ (.inl rfl)

end EndpointStubs
