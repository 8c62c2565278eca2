import EndpointStubs.Proofs.CheckedStubs
import EndpointStubs.Proofs.RenderOrder
import EndpointStubs.Round
import Mathlib.Tactic.Tauto

/-!
# Numbering loses no endpoint

Each endpoint with a request method and a method name gets one stub method, and
no two stub methods have the same name: names are given out in a fixed order, and
each endpoint gets the first name that is free when its turn comes. That a name
of another endpoint looks like a numbered one makes no difference. The other
endpoints are reported, once each, when the stubs are written, and the base
classes list the same endpoints again without reporting any.
-/

namespace EndpointStubs

/-- The name is not in use and is the first such one among the method name, the method name with
2, the method name with 3 and so on. -/
def IsFirstFree (used : List String) (methodName name : String) : Prop :=
  name ∉ used ∧
    (name = methodName ∨
      methodName ∈ used ∧ ∃ n, 2 ≤ n ∧ name = methodName ++ toString n ∧
        ∀ m, 2 ≤ m → m < n → methodName ++ toString m ∈ used)

theorem isFirstFree_freeName (used : List String) (methodName : String) :
    IsFirstFree used methodName (freeName used methodName) := by
  refine ⟨freeName_not_mem used methodName, ?_⟩
  obtain ⟨n, hname, hbefore⟩ := exists_freeName_eq used methodName
  cases n with
  | zero => exact .inl hname
  | succ n =>
    refine .inr ⟨hbefore 0 (Nat.zero_lt_succ n), n + 2, by omega, hname, fun m hm hlt ↦ ?_⟩
    obtain ⟨k, rfl⟩ := Nat.exists_eq_add_of_le' hm
    exact hbefore (k + 1) (by omega)

theorem IsFirstFree.congr {used others : List String} (h : ∀ name, name ∈ used ↔ name ∈ others)
    {methodName name : String} (hfree : IsFirstFree used methodName name) :
    IsFirstFree others methodName name := by
  simpa only [IsFirstFree, h] using hfree

/-- The endpoint gets a stub method. -/
def Resource.isStubbed (resource : Resource) : Bool :=
  resource.httpMethod.isSome && resource.methodName.isSome

theorem Resource.isStubbed_iff {resource : Resource} : resource.isStubbed = true ↔
    ∃ method name, resource.httpMethod = some method ∧ resource.methodName = some name := by
  rw [isStubbed, Bool.and_eq_true, Option.isSome_iff_exists, Option.isSome_iff_exists]
  exact ⟨fun ⟨⟨method, hmethod⟩, name, hname⟩ ↦ ⟨method, name, hmethod, hname⟩,
    fun ⟨method, name, hmethod, hname⟩ ↦ ⟨⟨method, hmethod⟩, name, hname⟩⟩

/-- The stub method is that of the resource, under the first name that is not in use. -/
structure StubEndpoint.IsStubOf (endpoint : StubEndpoint) (resource : Resource)
    (used : List String) : Prop where
  resource_eq : endpoint.resource = resource
  httpMethod : resource.httpMethod = some endpoint.httpMethod
  name : ∃ methodName, resource.methodName = some methodName ∧
    IsFirstFree used methodName endpoint.name

namespace Controller

/-- The endpoints that get a stub method, in the order in which names are given out. -/
def stubbedEntries (controller : Controller) : List (String × Resource) :=
  controller.orderedEndpoints.filter (·.2.isStubbed)

/-- Each of these endpoints, under its key, with its stub method. -/
def assignment (controller : Controller) : List ((String × Resource) × StubEndpoint) :=
  controller.stubbedEntries.zip controller.stubEndpoints

/-- The other endpoints are passed over. -/
theorem numberEndpoints_filter (endpoints : List (String × Resource)) (used : List String) :
    numberEndpoints used (endpoints.filter (·.2.isStubbed)) = numberEndpoints used endpoints := by
  induction endpoints generalizing used with
  | nil => rfl
  | cons entry rest ih =>
    obtain ⟨key, resource⟩ := entry
    cases hstubbed : resource.isStubbed with
    | true =>
      obtain ⟨method, name, hmethod, hname⟩ := Resource.isStubbed_iff.1 hstubbed
      rw [List.filter_cons, if_pos hstubbed]
      simp only [numberEndpoints, hmethod, hname, ih]
    | false =>
      rw [List.filter_cons, if_neg (by simp [hstubbed]), ih, numberEndpoints]
      split
      · rename_i method name hmethod hname
        rw [Resource.isStubbed_iff.2 ⟨method, name, hmethod, hname⟩] at hstubbed
        cases hstubbed
      · rfl

/-- The first endpoint takes its name, and the others follow. -/
theorem exists_numberEndpoints_eq_cons {entry : String × Resource}
    (hstubbed : entry.2.isStubbed = true) (rest : List (String × Resource)) (used : List String) :
    ∃ endpoint : StubEndpoint, endpoint.IsStubOf entry.2 used ∧
      numberEndpoints used (entry :: rest) =
        endpoint :: numberEndpoints (endpoint.name :: used) rest := by
  obtain ⟨key, resource⟩ := entry
  obtain ⟨method, name, hmethod, hname⟩ := Resource.isStubbed_iff.1 hstubbed
  dsimp only at hmethod hname
  refine ⟨⟨freeName used name, method, resource⟩,
    ⟨rfl, hmethod, name, hname, isFirstFree_freeName used name⟩, ?_⟩
  simp only [numberEndpoints, hmethod, hname]

/-- Nothing is lost: each endpoint has its stub method. -/
theorem length_numberEndpoints {entries : List (String × Resource)}
    (hstubbed : ∀ entry ∈ entries, entry.2.isStubbed = true) (used : List String) :
    (numberEndpoints used entries).length = entries.length := by
  induction entries generalizing used with
  | nil => rfl
  | cons entry rest ih =>
    obtain ⟨hentry, hrest⟩ := List.forall_mem_cons.1 hstubbed
    obtain ⟨endpoint, -, hnumbered⟩ := exists_numberEndpoints_eq_cons hentry rest used
    rw [hnumbered, List.length_cons, List.length_cons, ih hrest]

/-- When the turn of an endpoint comes, the names of those before it are in use. -/
theorem isStubOf_of_zip_eq {entries : List (String × Resource)}
    (hstubbed : ∀ entry ∈ entries, entry.2.isStubbed = true) {used : List String}
    {before after : List ((String × Resource) × StubEndpoint)}
    {given : (String × Resource) × StubEndpoint}
    (h : entries.zip (numberEndpoints used entries) = before ++ given :: after) :
    given.2.IsStubOf given.1.2 (before.map (·.2.name) ++ used) := by
  induction entries generalizing used before with
  | nil => simp at h
  | cons entry rest ih =>
    obtain ⟨hentry, hrest⟩ := List.forall_mem_cons.1 hstubbed
    obtain ⟨endpoint, hendpoint, hnumbered⟩ := exists_numberEndpoints_eq_cons hentry rest used
    rw [hnumbered, List.zip_cons_cons] at h
    cases before with
    | nil =>
      obtain ⟨rfl, -⟩ := List.cons.inj h
      exact hendpoint
    | cons first before =>
      obtain ⟨rfl, hsplit⟩ := List.cons.inj h
      obtain ⟨hresource, hmethod, methodName, hname, hfree⟩ := ih hrest hsplit
      refine ⟨hresource, hmethod, methodName, hname, hfree.congr fun name ↦ ?_⟩
      simp only [List.mem_append, List.mem_cons, List.map_cons]
      tauto

variable (controller : Controller)

theorem isStubbed_of_mem_stubbedEntries :
    ∀ entry ∈ controller.stubbedEntries, entry.2.isStubbed = true := fun _ hentry ↦
  (List.mem_filter.1 hentry).2

theorem numberEndpoints_stubbedEntries :
    numberEndpoints [] controller.stubbedEntries = controller.stubEndpoints :=
  numberEndpoints_filter controller.orderedEndpoints []

theorem stubbedEntries_perm :
    controller.stubbedEntries.Perm (controller.resources.entries.filter (·.2.isStubbed)) :=
  (List.mergeSort_perm _ _).filter _

/-- The assignment is one to one between endpoints and stub methods. -/
theorem map_assignment :
    controller.assignment.map Prod.fst = controller.stubbedEntries ∧
      controller.assignment.map Prod.snd = controller.stubEndpoints := by
  have hlength : controller.stubEndpoints.length = controller.stubbedEntries.length := by
    rw [← numberEndpoints_stubbedEntries]
    exact length_numberEndpoints controller.isStubbed_of_mem_stubbedEntries []
  exact ⟨List.map_fst_zip hlength.ge, List.map_snd_zip hlength.le⟩

/-- Controllers with the same endpoints under the same keys sort them alike. -/
theorem orderedEndpoints_eq {other : Controller}
    (h : ∀ entry, entry ∈ other.resources.entries ↔ entry ∈ controller.resources.entries) :
    other.orderedEndpoints = controller.orderedEndpoints := by
  have hsame : other.resources.SameUpTo (· = ·) controller.resources := by
    intro key
    have hget : other.resources.get? key = controller.resources.get? key :=
      Option.ext fun resource ↦ by rw [Registry.get?_eq_some_iff, Registry.get?_eq_some_iff, h]
    rw [hget]
    cases controller.resources.get? key with
    | none => exact .none
    | some resource => exact .some rfl
  have hsorted := hsame.forall₂_mergeSort endpointLe endpointLe endpointLe_trans endpointLe_total
    (fun a _ b _ ↦ endpointLe_antisymm) (by rintro k l a b _ _ rfl rfl; rfl)
  rw [orderedEndpoints, orderedEndpoints, ← List.forall₂_eq_eq_eq]
  exact hsorted.imp fun _ _ ⟨hkey, hresource⟩ ↦ Prod.ext hkey hresource

/-- Whatever is not stubbed is skipped, each key once. -/
theorem skippedKeys_perm :
    controller.skippedKeys.Perm
      ((controller.resources.entries.filter (!·.2.isStubbed)).map Prod.fst) := by
  have hskipped (entry : String × Resource) :
      (entry.2.httpMethod.isNone || entry.2.methodName.isNone) = !entry.2.isStubbed := by
    cases hmethod : entry.2.httpMethod <;> cases hname : entry.2.methodName <;>
      simp [Resource.isStubbed, hmethod, hname]
  rw [skippedKeys]
  simp only [hskipped]
  exact ((List.mergeSort_perm _ _).filter _).map _

end Controller

/-- If all stub classes can be written, the endpoints that are skipped are reported, controller by
controller. -/
theorem Model.skipDiagnostics_eq {suffixes : Suffixes} {model : Model} {files : Files}
    (h : model.stubFiles suffixes = .ok files) :
    model.skipDiagnostics suffixes = model.sortedControllers.flatMap fun (_, controller) ↦
      controller.skippedKeys.map .notStubbed := by
  obtain ⟨written, -, hwritten, -⟩ := exists_of_stubFiles_eq_ok h
  rw [skipDiagnostics]
  generalize model.sortedControllers = controllers at hwritten
  induction controllers generalizing written with
  | nil => rfl
  | cons entry rest ih =>
    obtain ⟨key, controller⟩ := entry
    rw [List.mapM_cons] at hwritten
    obtain ⟨file, hfile, hwritten⟩ := bind_eq_ok.1 hwritten
    obtain ⟨files, hfiles, -⟩ := bind_eq_ok.1 hwritten
    have hok : (stubFile suffixes key controller).isOk = true := by
      rw [show stubFile suffixes key controller = .ok file from hfile]
      rfl
    rw [skipDiagnostics.go, if_pos hok, ih files hfiles, List.flatMap_cons]

/-! ## Rendered controllers -/

/-- The lines are those that are written for the endpoint, and start with the signature of a method
of its name. -/
def StubEndpoint.HasLines (endpoint : StubEndpoint) (lines : List String) : Prop :=
  endpoint.methodLines = .ok lines ∧
    ∃ parameters rest, lines = endpoint.signature parameters :: rest

namespace Controller

/-- The constants of the base class, with an empty line behind them if there are any. -/
def constantBlock (constants : List String) : List String :=
  if constants.isEmpty then [] else constants ++ [""]

/-- The base class from its field on. -/
def baseTail (suffixes : Suffixes) (simpleName : String) : List String :=
  "    protected final ObjectMapper objectMapper;" :: "" ::
    ("    public " ++ (simpleName ++ suffixes.base) ++ "(ObjectMapper objectMapper) \x7b") ::
    helperLines

theorem baseText_eq_blocks (controller : Controller) (suffixes : Suffixes)
    (packageName simpleName : String) :
    controller.baseText suffixes packageName simpleName =
      fileText (baseHead suffixes packageName simpleName ++
        constantBlock (controller.stubEndpoints.map StubEndpoint.constantLine) ++
        baseTail suffixes simpleName) :=
  controller.baseText_eq suffixes packageName simpleName

end Controller

/-- Numbering loses no endpoint and gives no name twice. For every controller that a stub class can
be written for: the endpoints with a request method and a method name are assigned to the stub
methods one to one, and these are the methods of the stub class; their names differ; each is the
method name itself or the method name with the smallest number from 2 on that is free when its turn
comes; the assignment depends on nothing but which resource stands under which key; and the base
class has the constants of the same endpoints in the same order. When the classes of a model are
written, stubs and bases, the remaining endpoints are reported, once each, and no others. -/
theorem stub_numbering_loses_nothing (suffixes : Suffixes) :
    (∀ key controller file, Model.stubFile suffixes key controller = .ok file →
      let names := controllerName key controller.packageName
      let assignment := controller.assignment
      (assignment.map Prod.fst).Perm (controller.resources.entries.filter (·.2.isStubbed)) ∧
      (assignment.map (·.2.name)).Nodup ∧
      (∀ before given after, assignment = before ++ given :: after →
        given.2.IsStubOf given.1.2 (before.map (·.2.name))) ∧
      (∀ other : Controller,
        (∀ entry, entry ∈ other.resources.entries ↔ entry ∈ controller.resources.entries) →
          other.assignment = assignment) ∧
      (∃ methods, List.Forall₂ (fun given lines ↦ given.2.HasLines lines) assignment methods ∧
        file.2 = fileText (controller.stubHead suffixes names.1 names.2 ++
          methods.flatMap ("" :: ·) ++ ["\x7d"])) ∧
      (Model.baseFile suffixes key controller).2 =
        fileText (Controller.baseHead suffixes names.1 names.2 ++
          Controller.constantBlock (assignment.map fun given ↦ given.2.constantLine) ++
          Controller.baseTail suffixes names.2) ∧
      controller.skippedKeys.Perm
        ((controller.resources.entries.filter (!·.2.isStubbed)).map Prod.fst)) ∧
    ∀ model files facts, Model.stubFiles suffixes model = .ok files → facts ≠ [] →
      generateDiagnostics suffixes facts model = model.sortedControllers.flatMap
        fun (_, controller) ↦ controller.skippedKeys.map .notStubbed := by
  refine ⟨?_, fun model files facts hfiles hfacts ↦ ?_⟩
  · intro key controller file hfile names assignment
    obtain ⟨hentries, hendpoints⟩ := controller.map_assignment
    have hnames : assignment.map (·.2.name) =
        controller.stubEndpoints.map StubEndpoint.name := by
      rw [← hendpoints, List.map_map]
      rfl
    refine ⟨hentries ▸ controller.stubbedEntries_perm, hnames ▸ controller.nodup_stubEndpoints,
      fun before given after hsplit ↦ ?_, fun other hother ↦ ?_, ?_, ?_,
      controller.skippedKeys_perm⟩
    · have hzip := hsplit
      rw [show assignment = controller.stubbedEntries.zip controller.stubEndpoints from rfl,
        ← controller.numberEndpoints_stubbedEntries] at hzip
      have hstub := Controller.isStubOf_of_zip_eq controller.isStubbed_of_mem_stubbedEntries hzip
      rwa [List.append_nil] at hstub
    · have hordered := controller.orderedEndpoints_eq hother
      simp only [assignment, Controller.assignment, Controller.stubbedEntries,
        Controller.stubEndpoints, hordered]
    · obtain ⟨methods, hmethods, htext⟩ :=
        Controller.stubText_eq_ok (Model.stubFile_eq_ok hfile).2
      refine ⟨methods, ?_, htext⟩
      have hlines := forall₂_of_mapM_eq_ok hmethods
      rw [← hendpoints, List.forall₂_map_left_iff] at hlines
      refine hlines.imp fun given lines hgiven ↦ ?_
      obtain ⟨leading, arguments, url, queryLines, -, -, -, -, rfl⟩ :=
        StubEndpoint.methodLines_eq_ok hgiven
      exact ⟨hgiven, _, _, rfl⟩
    · have hconstants : (assignment.map fun given ↦ given.2.constantLine) =
          controller.stubEndpoints.map StubEndpoint.constantLine := by
        rw [← hendpoints, List.map_map]
        rfl
      rw [hconstants]
      exact controller.baseText_eq_blocks suffixes names.1 names.2
  · have hisEmpty : facts.isEmpty = false := by simpa using hfacts
    rw [generateDiagnostics, hisEmpty]
    exact Model.skipDiagnostics_eq hfiles

/-- The second `List` gets the number 2, which is the name of another method, and that one gets a
number behind its own. -/
theorem stub_numbering_loses_nothing_overloads :
    let list (name : String) : Resource := { methodName := some name, httpMethod := some .get }
    let controller : Controller :=
      { resources := .ofList
          [("A.list()", list "List"), ("A.list(int)", list "List"), ("A.list2()", list "List2"),
            ("A.other()", { methodName := some "Other" })] }
    ∃ file, Model.stubFile {} "A" controller = .ok file ∧
      (controller.assignment.map fun given ↦ (given.1.1, given.2.name)) =
        [("A.list()", "List"), ("A.list(int)", "List2"), ("A.list2()", "List22")] ∧
      IsFirstFree ["List", "List2"] "List2" "List22" ∧
      controller.skippedKeys.Perm ["A.other()"] := by
  intro list controller
  have hrenderable : ∀ entry ∈ controller.resources.entries, entry.2.Renderable := by
    have hplain : ∀ entry ∈ controller.resources.entries,
        entry.2.formatArguments = [] ∧ entry.2.arguments.get? none = none := by decide +kernel
    intro entry hentry
    obtain ⟨hformat, harguments⟩ := hplain entry hentry
    refine ⟨fun name hname ↦ ?_, harguments⟩
    rw [hformat] at hname
    cases hname
  obtain ⟨text, htext⟩ := controller.exists_stubText hrenderable {} "" "A"
  have hnames : controllerName "A" controller.packageName = ("", "A") := by decide +kernel
  have hfile : Model.stubFile {} "A" controller =
      .ok (classFile "" ("A" ++ ({} : Suffixes).stub), text) := by
    rw [Model.stubFile, hnames]
    dsimp only
    rw [htext]
    rfl
  have hordered : controller.orderedEndpoints = controller.resources.entries :=
    List.mergeSort_of_pairwise (by decide +kernel)
  have hassignment : controller.assignment =
      [(("A.list()", list "List"), ⟨"List", .get, list "List"⟩),
        (("A.list(int)", list "List"), ⟨"List2", .get, list "List"⟩),
        (("A.list2()", list "List2"), ⟨"List22", .get, list "List2"⟩)] := by
    rw [Controller.assignment, Controller.stubbedEntries, Controller.stubEndpoints, hordered]
    decide +kernel
  obtain ⟨-, -, hfree, -, -, -, hskipped⟩ :=
    (stub_numbering_loses_nothing {}).1 "A" controller _ hfile
  refine ⟨_, hfile, by rw [hassignment]; rfl, ?_, hskipped⟩
  obtain ⟨-, -, methodName, hmethodName, hname⟩ :=
    hfree (controller.assignment.take 2) _ [] (by rw [hassignment]; rfl)
  obtain rfl : "List2" = methodName := Option.some.inj hmethodName
  rw [hassignment] at hname
  exact hname

end EndpointStubs
