import EndpointStubs.Proofs.DeclaredMethods
import EndpointStubs.Proofs.EndpointFacts
import EndpointStubs.Proofs.InertText
import EndpointStubs.Runtime

/-!
# A round of any sources

Whatever texts are given as sources, one thing alone can end a round of them: types
that are within each other deeper than the stack has room for. Otherwise it runs to
its end: every fact finds its method, the model can be checked, and both classes of
each controller are generated, in either order of the path variables. What can go
wrong in later stages is ruled out by what the scanner says about parameters: they
all have names.
-/

namespace EndpointStubs

/-- A fact is ignored with a warning exactly if it is about a method but does not say which. -/
theorem Model.noEnclosingMethod_mem_foldDiagnostics {model : Model} {fact : Fact}
    {annotationName element : String} :
    .noEnclosingMethod annotationName element ∈ model.foldDiagnostics fact ↔
      fact.isAboutMethod = true ∧ fact.methodKey = none ∧
        fact.annotationName = annotationName ∧ fact.element = element := by
  have hfield {α : Type} [DecidableEq α] (key field : String) (shown : α → String)
      (current new : Option α) :
      .noEnclosingMethod annotationName element ∉ fieldChange key field shown current new := by
    unfold fieldChange
    split
    · split <;> simp
    · simp
  have htype (key : String) (registry : Registry (Option String) Argument) :
      .noEnclosingMethod annotationName element ∉ Resource.typeConflicts key fact registry := by
    unfold Resource.typeConflicts
    split
    · simp
    · split <;> simp
  have hbody (key : String) (resource : Resource) :
      .noEnclosingMethod annotationName element ∉ resource.bodyConflicts key fact := by
    unfold Resource.bodyConflicts
    split
    · simp
    · split <;> simp
  rw [Fact.isAboutMethod_iff]
  cases hkind : fact.kind <;> cases hkey : fact.methodKey <;>
    simp [foldDiagnostics, foldReporting, hkind, hkey, Resource.routeConflicts, hfield, htype,
      hbody, eq_comm]

theorem Model.noEnclosingMethod_mem_foldAllDiagnostics {model : Model} {facts : List Fact}
    {annotationName element : String} :
    .noEnclosingMethod annotationName element ∈ model.foldAllDiagnostics facts ↔
      ∃ fact ∈ facts, fact.isAboutMethod = true ∧ fact.methodKey = none ∧
        fact.annotationName = annotationName ∧ fact.element = element := by
  induction facts generalizing model with
  | nil => simp [foldAllDiagnostics]
  | cons fact facts ih =>
    rw [foldAllDiagnostics, List.mem_append, ih, noEnclosingMethod_mem_foldDiagnostics,
      List.exists_mem_cons_iff]

/-- The facts about an endpoint of sources are facts about the declared methods with its key. -/
theorem exists_declaredMethod_of_mem_endpointFacts {sources : List String}
    {controller key : String} {fact : Fact}
    (h : fact ∈ endpointFacts controller key (sources.flatMap scan)) :
    ∃ m : Java.Method, (controller, m) ∈ sources.flatMap declaredMethods ∧
      methodKey controller m = key ∧ fact ∈ methodFacts controller m := by
  obtain ⟨hmem, hcontroller, hkey⟩ := mem_endpointFacts.1 h
  have habout : fact.isAboutMethod = true := by
    rw [Fact.isAboutMethod_iff]
    constructor <;> intro hkind <;> simp [Fact.endpointKey?, hkind] at hkey
  obtain ⟨⟨controller', m⟩, hm, hfact⟩ := exists_declaredMethod_of_mem_scan hmem habout
  obtain ⟨hcontroller', hmethodKey⟩ := key_of_mem_methodFacts hfact
  obtain rfl : controller' = controller := hcontroller'.symm.trans hcontroller
  rw [methodKey_of_mem_endpointFacts h, Option.some.injEq] at hmethodKey
  exact ⟨m, hm, hmethodKey.symm, hfact⟩

theorem Fact.isParameter_of_isNamedParameter {fact : Fact} (h : fact.isNamedParameter = true) :
    fact.isParameter = true := by
  rw [isNamedParameter, Bool.or_eq_true, decide_eq_true_eq, decide_eq_true_eq] at h
  rcases h with hkind | hkind <;> rw [isParameter, hkind] <;> rfl

/-- The scanner gives all parameters names. -/
theorem hasNamedParameters_scan (sources : List String) :
    HasNamedParameters (sources.flatMap scan) := by
  intro fact hfact _ hnamed hnone
  have hparameter := Fact.isParameter_of_isNamedParameter hnamed
  have habout : fact.isAboutMethod = true := by
    rw [Fact.isAboutMethod, hparameter, Bool.or_true]
  have hname := ((isComplete_of_mem_scan hfact habout).name hparameter).2
  rw [hnone] at hname
  cases hname

theorem generate_of_stubFiles {suffixes : Suffixes} {model : Model} {stubs : Files}
    (h : model.stubFiles suffixes = .ok stubs) (facts : List Fact) :
    generate suffixes facts model =
      .ok (if facts.isEmpty then none else some ⟨stubs, model.baseFiles suffixes⟩) := by
  rw [generate]
  split
  · rfl
  · rw [h]
    rfl

/-- Scanning the sources one by one gives the facts of all of them, or ends at the first whose types
are too deep within each other. -/
theorem mapM_scanWithin (room : Nat) (sources : List String) :
    sources.mapM (scanWithin room) =
      if ∀ source ∈ sources, (Java.Outline.ofText source.toList).nesting ≤ room then
        .ok (sources.map scan)
      else .error .tooDeep := by
  induction sources with
  | nil => rfl
  | cons source sources ih =>
    rw [List.mapM_cons, scanWithin_eq, ih]
    simp only [List.forall_mem_cons]
    by_cases hfirst : (Java.Outline.ofText source.toList).nesting ≤ room
    · by_cases hrest : ∀ other ∈ sources, (Java.Outline.ofText other.toList).nesting ≤ room
      · rw [if_pos hfirst, if_pos hrest, if_pos ⟨hfirst, hrest⟩]
        rfl
      · rw [if_pos hfirst, if_neg hrest, if_neg (not_and_of_not_right _ hrest)]
        rfl
    · rw [if_neg hfirst, if_neg (not_and_of_not_left _ hfirst)]
      rfl

/-- For all sources, in either order of the path variables and with all suffixes: scanning them
gives their facts, unless the types of one are deeper within each other than there is room for.
Every fact about a method is complete, so none of them is ignored, and checking and rendering
succeed. -/
theorem round_of_sources (room : Nat) (sources : List String) (order : VariableOrder)
    (suffixes : Suffixes) :
    let facts := sources.flatMap scan
    let model := roundModel order facts
    (sources.mapM (scanWithin room)).map List.flatten =
        (if ∀ source ∈ sources, (Java.Outline.ofText source.toList).nesting ≤ room then .ok facts
        else .error .tooDeep) ∧
      (∀ fact ∈ facts, fact.isAboutMethod = true → fact.IsComplete) ∧
      (∀ annotationName element,
        .noEnclosingMethod annotationName element ∉ roundDiagnostics order facts) ∧
      (∃ problems, model.problems = .ok problems) ∧
      ∃ stubs, model.stubFiles suffixes = .ok stubs ∧
        generate suffixes facts model =
          .ok (if facts.isEmpty then none else some ⟨stubs, model.baseFiles suffixes⟩) := by
  intro facts model
  have hscan : (sources.mapM (scanWithin room)).map List.flatten =
      if ∀ source ∈ sources, (Java.Outline.ofText source.toList).nesting ≤ room then .ok facts
      else .error .tooDeep := by
    rw [mapM_scanWithin]
    split
    · rw [Except.map, ← List.flatMap_def]
    · rfl
  have hcomplete : ∀ fact ∈ facts, fact.isAboutMethod = true → fact.IsComplete := fun _ ↦
    isComplete_of_mem_scan
  have hnamed : HasNamedParameters facts := hasNamedParameters_scan sources
  refine ⟨hscan, hcomplete, fun annotationName element hmem ↦ ?_, ?_, ?_⟩
  · simp only [roundDiagnostics, List.cons_append, List.mem_cons, List.mem_append,
      List.not_mem_nil, or_false, reduceCtorEq, false_or] at hmem
    obtain ⟨fact, hfact, habout, hkey, -⟩ :=
      Model.noEnclosingMethod_mem_foldAllDiagnostics.1 hmem
    exact (hcomplete fact hfact habout).methodKey hkey
  · exact ⟨_, Model.problems_eq hnamed.hasNamedVariables⟩
  · obtain ⟨stubs, hstubs⟩ := Model.exists_stubFiles (fun _ _ _ ↦ hnamed.renderable) suffixes
    exact ⟨stubs, hstubs, generate_of_stubFiles hstubs facts⟩

/-! ## Types too deep within each other -/

section Nested

open Java Java.Written

/-- So many classes, each within the one before it. -/
def nestedClasses : Nat → List Char
  | 0 => []
  | n + 1 => ['c', 'l', 'a', 's', 's', ' ', 'A', '{'] ++ nestedClasses n ++ ['}']

theorem mem_nestedClasses {n : Nat} {c : Char} (h : c ∈ nestedClasses n) :
    isQuote c = false ∧ c ≠ '/' := by
  induction n with
  | zero => cases h
  | succ n ih =>
    rw [nestedClasses, List.mem_append, List.mem_append, List.mem_singleton] at h
    rcases h with (h | h) | rfl
    · have hheader : ['c', 'l', 'a', 's', 's', ' ', 'A', '{'].all
          (fun c ↦ !isQuote c && c != '/') := by
        decide
      simpa using List.all_eq_true.1 hheader c h
    · exact ih h
    · decide

theorem plain_nestedClasses (n : Nat) : plain (nestedClasses (n + 1)) =
    plain ['c', 'l', 'a', 's', 's', ' ', 'A'] ++
      .char '{' :: (plain (nestedClasses n) ++ [.char '}']) := by
  rw [nestedClasses, plain, List.map_append, List.map_append, List.append_assoc]
  rfl

theorem closed_nestedClasses (n : Nat) : Closed '{' '}' 0 (plain (nestedClasses n)) := by
  induction n with
  | zero => rfl
  | succ n ih =>
    rw [plain_nestedClasses]
    exact closed_append_zero (by decide) (closed_bracketed (by decide) ih rfl)

theorem members_nestedClasses (following : List Char) (n : Nat) :
    members following (plain (nestedClasses (n + 1))) =
      [.type [] "A" (members ('}' :: following) (plain (nestedClasses n)))] := by
  have hheader : InHeader 0 (plain ['c', 'l', 'a', 's', 's', ' ', 'A']) := by decide
  have hpeel : peelHeader (plain ['c', 'l', 'a', 's', 's', ' ', 'A']) =
      ([], plain ['c', 'l', 'a', 's', 's', ' ', 'A']) := by
    decide +kernel
  have htype : typeName? (flatten (plain ['c', 'l', 'a', 's', 's', ' ', 'A'])) = some "A" := by
    decide +kernel
  have hnil : members following [] = [] := members_of_none rfl
  rw [plain_nestedClasses, members_type hheader hpeel htype (closed_nestedClasses n), hnil,
    flatten_nil, List.cons_append, List.nil_append]

theorem listNesting_members_nestedClasses (following : List Char) (n : Nat) :
    Member.listNesting (members following (plain (nestedClasses n))) = n := by
  induction n generalizing following with
  | zero => rw [members_of_none rfl, Member.listNesting]
  | succ n ih =>
    rw [members_nestedClasses, Member.listNesting, Member.nesting, ih, Member.listNesting,
      Nat.max_zero]

theorem nesting_nestedClasses (n : Nat) : (Outline.ofText (nestedClasses n)).nesting = n := by
  have hlex : lex (nestedClasses n) = plain (nestedClasses n) :=
    Inert.lex_eq_plain fun c hc ↦ (mem_nestedClasses hc).1
  have hslash : .char '/' ∉ lex (nestedClasses n) := by
    rw [hlex]
    intro hmem
    obtain ⟨c, hc, heq⟩ := List.mem_map.1 hmem
    exact (mem_nestedClasses hc).2 (Lexeme.char.inj heq)
  have htypes : (members [] (plain (nestedClasses n))).filter Member.isType =
      members [] (plain (nestedClasses n)) := by
    cases n with
    | zero => rw [members_of_none rfl, List.filter_nil]
    | succ n => rw [members_nestedClasses, List.filter_cons_of_pos rfl, List.filter_nil]
  rw [Outline.ofText, Outline.nesting,
    stripComments_of_not_hasCommentMark (not_hasCommentMark_of_not_mem hslash), hlex, htypes,
    listNesting_members_nestedClasses]

theorem scanWithin_nestedClasses {room n : Nat} (h : room < n) :
    scanWithin room (.ofList (nestedClasses n)) = .error .tooDeep := by
  rw [scanWithin_eq, String.toList_ofList, nesting_nestedClasses, if_neg (Nat.not_le.2 h)]

/-- A thousand classes within each other are more than the stack has room for. -/
theorem nested_classes_too_deep :
    scanWithin Runtime.standard.nesting (.ofList (nestedClasses 1000)) = .error .tooDeep :=
  scanWithin_nestedClasses Runtime.standard.bounded

end Nested

end EndpointStubs
