import EndpointStubs.Proofs.CheckedStubs
import EndpointStubs.Proofs.DeclaredTypes
import EndpointStubs.Proofs.JoinedTexts

/-!
# The files of the classes

The file of a class is named after its package and its name, and different
classes have different files. So a file can only be lost if two controllers have
classes of one name: the names of nested types are joined, and `A.B` and `AB` are
both `AB`. Where every controller has its own class names, there is one stub file
and one base file for each. The files are told apart by their paths as they are
written, not by what these lead to on a disk.
-/

namespace EndpointStubs

/-- The segments of a package; the default package has none. -/
def packageSegments (packageName : String) : List String :=
  if packageName.isEmpty then [] else Text.splitDots packageName

theorem toList_joinDots (pieces : List String) :
    (Text.joinDots pieces).toList = ['.'].intercalate (pieces.map String.toList) := by
  rw [Text.joinDots, String.toList_intercalate]
  rfl

theorem joinDots_splitDots (name : String) : Text.joinDots (Text.splitDots name) = name := by
  rw [← String.toList_inj, toList_joinDots, Text.splitDots, List.map_map]
  simp only [Function.comp_def, String.toList_ofList, List.map_id']
  exact Text.intercalate_splitAt '.' name.toList

theorem joinDots_packageSegments (packageName : String) :
    Text.joinDots (packageSegments packageName) = packageName := by
  rw [packageSegments]
  split
  · rename_i hempty
    rw [String.isEmpty_iff.1 hempty]
    rfl
  · exact joinDots_splitDots packageName

theorem packageSegments_ne_nil {packageName : String} (h : packageName ≠ "") :
    packageSegments packageName = Text.splitDots packageName ∧
      packageSegments packageName ≠ [] := by
  have hsegments : packageSegments packageName = Text.splitDots packageName := by
    rw [packageSegments, if_neg (by rwa [String.isEmpty_iff])]
  refine ⟨hsegments, ?_⟩
  rw [hsegments, Text.splitDots, ne_eq, List.map_eq_nil_iff]
  exact Text.splitAt_ne_nil _ _

/-- The characters of the segments are those of the package but for the dots. -/
theorem mem_of_mem_packageSegments {packageName segment : String}
    (h : segment ∈ packageSegments packageName) :
    ∀ c ∈ segment.toList, c ∈ packageName.toList ∧ c ≠ '.' := by
  rw [packageSegments] at h
  split at h
  · cases h
  · obtain ⟨piece, hpiece, rfl⟩ := List.mem_map.1 h
    rw [String.toList_ofList]
    exact mem_of_mem_splitAt hpiece

theorem classFile_injective {packageName className otherPackage otherClass : String}
    (hpackage : '/' ∉ packageName.toList) (hclass : '/' ∉ className.toList)
    (hotherPackage : '/' ∉ otherPackage.toList) (hotherClass : '/' ∉ otherClass.toList)
    (h : classFile packageName className = classFile otherPackage otherClass) :
    packageName = otherPackage ∧ className = otherClass := by
  have hsplit {p c : String} (hp : '/' ∉ p.toList) (hc : '/' ∉ c.toList) :
      (Text.splitAt '/' (classFile p c).toList).map String.ofList =
        packageSegments p ++ [c ++ ".java"] := by
    have hpieces : ∀ piece ∈ (packageSegments p ++ [c ++ ".java"]).map String.toList,
        '/' ∉ piece := by
      intro piece hpiece
      obtain ⟨segment, hsegment, rfl⟩ := List.mem_map.1 hpiece
      rcases List.mem_append.1 hsegment with hsegment | hsegment
      · exact fun hmem ↦ hp (mem_of_mem_packageSegments hsegment _ hmem).1
      · obtain rfl := List.mem_singleton.1 hsegment
        simp [hc]
    have hpath : (classFile p c).toList =
        ['/'].intercalate ((packageSegments p ++ [c ++ ".java"]).map String.toList) := by
      rw [classFile, String.toList_intercalate]
      rfl
    rw [hpath, splitAt_intercalate hpieces (by simp), List.map_map]
    simp [Function.comp_def]
  have hparts := hsplit hpackage hclass
  rw [h, hsplit hotherPackage hotherClass, List.append_singleton_inj] at hparts
  refine ⟨?_, ((String.append_left_inj _).1 hparts.2).symm⟩
  rw [← joinDots_packageSegments packageName, ← hparts.1, joinDots_packageSegments]

section QualifiedNames

variable {segments names pieces : List String}

theorem splitDots_joinDots (h : ∀ piece ∈ pieces, '.' ∉ piece.toList) (hne : pieces ≠ []) :
    Text.splitDots (Text.joinDots pieces) = pieces := by
  rw [Text.splitDots, toList_joinDots,
    splitAt_intercalate (List.forall_mem_map.2 h) (by simpa using hne), List.map_map]
  simp [Function.comp_def]

/-- Without its dots, a nested name is the names joined. -/
theorem filter_joinDots (h : ∀ name ∈ names, '.' ∉ name.toList) :
    String.ofList ((Text.joinDots names).toList.filter (· != '.')) = String.join names := by
  rw [toList_joinDots, filter_intercalate (List.forall_mem_map.2 h), ← String.toList_inj,
    String.toList_ofList, String.toList_join, List.flatMap_def]

/-- A reported package is cut off the qualified name, and the names behind it are joined, however
the package and the names are written. -/
theorem controllerName_joinDots (hsegments : Text.joinDots segments = "" → segments = [])
    (hdots : ∀ name ∈ names, '.' ∉ name.toList) (hne : names ≠ []) :
    controllerName (Text.joinDots (segments ++ names)) (some (Text.joinDots segments)) =
      (Text.joinDots segments, String.join names) := by
  have hnames : (if (Text.joinDots segments).isEmpty then
        (Text.joinDots (segments ++ names)).toList
      else (Text.after? ((Text.joinDots segments).toList ++ ['.'])
        (Text.joinDots (segments ++ names)).toList).getD
          (Text.joinDots (segments ++ names)).toList) = (Text.joinDots names).toList := by
    by_cases hempty : Text.joinDots segments = ""
    · rw [if_pos (by rw [hempty]; rfl), hsegments hempty, List.nil_append]
    · have hsegmentsNe : segments ≠ [] := by
        rintro rfl
        exact hempty rfl
      have hkey : (Text.joinDots (segments ++ names)).toList =
          (Text.joinDots segments).toList ++ ['.'] ++ (Text.joinDots names).toList := by
        simp only [toList_joinDots, List.map_append]
        rw [intercalate_append (by simpa using hsegmentsNe) (by simpa using hne)]
        simp
      rw [if_neg (by rwa [String.isEmpty_iff]), Text.after?_eq_some_iff.2 hkey, Option.getD_some]
  rw [controllerName]
  simp only [hnames, filter_joinDots hdots]

/-- Segments that start with a lower case letter are split off before a name that does not. -/
theorem leadingPackage_append
    (hsegments : ∀ segment ∈ segments, segment.toList.head?.any Text.isLower = true)
    (hne : names ≠ [])
    (hnames : names.length = 1 ∨ ∀ name ∈ names.head?, name.toList.head?.any Text.isLower = false) :
    leadingPackage (segments ++ names) = (segments, names) := by
  induction segments with
  | nil =>
    rw [List.nil_append]
    match names, hne with
    | [name], _ => rfl
    | name :: next :: rest, _ =>
      have hname := (hnames.resolve_left (by simp)) name rfl
      rw [leadingPackage, if_neg (by rw [hname]; exact Bool.false_ne_true)]
  | cons segment segments ih =>
    have hrest := ih fun s hs ↦ hsegments s (List.mem_cons_of_mem _ hs)
    obtain ⟨next, rest, heq⟩ :=
      List.exists_cons_of_ne_nil (List.append_ne_nil_of_right_ne_nil segments hne)
    rw [List.cons_append, heq, leadingPackage, if_pos (hsegments segment List.mem_cons_self),
      ← heq, hrest]

/-- Where no package was reported, it is told from the qualified name if both follow the
conventions. -/
theorem splitControllerName_joinDots (hdots : ∀ piece ∈ segments ++ names, '.' ∉ piece.toList)
    (hsegments : ∀ segment ∈ segments, segment.toList.head?.any Text.isLower = true)
    (hne : names ≠ [])
    (hnames : names.length = 1 ∨ ∀ name ∈ names.head?, name.toList.head?.any Text.isLower = false) :
    splitControllerName (Text.joinDots (segments ++ names)) =
      (Text.joinDots segments, String.join names) := by
  rw [splitControllerName, splitDots_joinDots hdots (List.append_ne_nil_of_right_ne_nil _ hne),
    leadingPackage_append hsegments hne hnames]

end QualifiedNames

/-- The segments of a package hold no dot. -/
theorem dot_not_mem_packageSegments {packageName segment : String}
    (h : segment ∈ packageSegments packageName) : '.' ∉ segment.toList := fun hmem ↦
  (mem_of_mem_packageSegments h _ hmem).2 rfl

/-- Only the default package has no segments. -/
theorem packageSegments_eq_nil {packageName : String}
    (h : Text.joinDots (packageSegments packageName) = "") : packageSegments packageName = [] := by
  rw [joinDots_packageSegments] at h
  rw [h]
  rfl

theorem dot_not_mem_of_isName {name : String} (h : IsName name) : '.' ∉ name.toList := fun hmem ↦
  absurd (h.2 '.' hmem) (by decide)

/-- Below a type or package that has a name, names are joined by dots. -/
theorem toList_foldl_qualify {outer : String} (h : outer ≠ "") (names : List String) :
    (names.foldl qualify outer).toList = ['.'].intercalate ((outer :: names).map String.toList) := by
  induction names generalizing outer with
  | nil => simp
  | cons name names ih =>
    have hqualify : qualify outer name = outer ++ "." ++ name := by
      rw [qualify, if_neg (by rwa [String.isEmpty_iff])]
    have hne : outer ++ "." ++ name ≠ "" := by simp
    rw [List.foldl_cons, hqualify, ih hne]
    cases names <;> simp [List.intercalate_cons_cons]

namespace DeclaredType

variable {type : DeclaredType}

/-- The package can be told from the qualified name: its segments start with a lower case letter,
and the name of the outermost type does not, unless the type is the outermost one itself. -/
structure IsConventional (type : DeclaredType) : Prop where
  packageName : ∀ segment ∈ packageSegments type.packageName,
    segment.toList.head?.any Text.isLower = true
  names : type.names.length = 1 ∨
    ∀ name ∈ type.names.head?, name.toList.head?.any Text.isLower = false

instance : Decidable type.IsConventional :=
  decidable_of_iff
    ((∀ segment ∈ packageSegments type.packageName,
        segment.toList.head?.any Text.isLower = true) ∧
      (type.names.length = 1 ∨
        ∀ name ∈ type.names.head?, name.toList.head?.any Text.isLower = false))
    ⟨fun h ↦ ⟨h.1, h.2⟩, fun h ↦ ⟨h.packageName, h.names⟩⟩

namespace HasNames

variable (h : type.HasNames)

include h

theorem dot_not_mem_names : ∀ name ∈ type.names, '.' ∉ name.toList := fun name hname ↦
  dot_not_mem_of_isName (h.names name hname)

/-- The qualified name is the segments of the package and the names with dots between them. -/
theorem toList_qualifiedName :
    type.qualifiedName.toList =
      ['.'].intercalate ((packageSegments type.packageName ++ type.names).map String.toList) := by
  obtain ⟨name, names, hnames⟩ := List.exists_cons_of_ne_nil h.names_ne_nil
  have hname : name ≠ "" := (h.names name (by rw [hnames]; exact List.mem_cons_self)).1
  by_cases hpackage : type.packageName = ""
  · have hfirst : qualify "" name = name := rfl
    rw [qualifiedName, hpackage, hnames, List.foldl_cons, hfirst, toList_foldl_qualify hname]
    rfl
  · obtain ⟨hsegments, hne⟩ := packageSegments_ne_nil hpackage
    have hjoined : ['.'].intercalate ((packageSegments type.packageName).map String.toList) =
        type.packageName.toList := by
      rw [← toList_joinDots, joinDots_packageSegments]
    rw [qualifiedName, toList_foldl_qualify hpackage, List.map_append,
      intercalate_append (by simpa using hne) (by simpa using h.names_ne_nil), hjoined,
      List.map_cons, List.intercalate_cons_of_ne_nil (by simpa using h.names_ne_nil)]
    simp

theorem isWordOrDot_qualifiedName :
    ∀ c ∈ type.qualifiedName.toList, Text.isWordOrDot c = true := by
  rw [h.toList_qualifiedName]
  refine forall_mem_intercalate (List.forall_mem_singleton.2 (by decide)) fun piece hpiece c hc ↦ ?_
  obtain ⟨name, hname, rfl⟩ := List.mem_map.1 hpiece
  rcases List.mem_append.1 hname with hname | hname
  · exact h.packageName c (mem_of_mem_packageSegments hname c hc).1
  · rw [Text.isWordOrDot, (h.names name hname).2 c hc, Bool.true_or]

theorem qualifiedName_eq :
    type.qualifiedName = Text.joinDots (packageSegments type.packageName ++ type.names) := by
  rw [← String.toList_inj, h.toList_qualifiedName, toList_joinDots]

/-- With the reported package, the classes are named after the type and the types around it. -/
theorem controllerName_some :
    controllerName type.qualifiedName (some type.packageName) =
      (type.packageName, type.className) := by
  have hname := controllerName_joinDots (@packageSegments_eq_nil type.packageName)
    h.dot_not_mem_names h.names_ne_nil
  rwa [joinDots_packageSegments, ← h.qualifiedName_eq] at hname

/-- Without a reported package they are so if the names follow the conventions. -/
theorem controllerName_none (hconventional : type.IsConventional) :
    controllerName type.qualifiedName none = (type.packageName, type.className) := by
  have hdots : ∀ piece ∈ packageSegments type.packageName ++ type.names, '.' ∉ piece.toList :=
    List.forall_mem_append.2 ⟨fun _ ↦ dot_not_mem_packageSegments, h.dot_not_mem_names⟩
  have hname := splitControllerName_joinDots hdots hconventional.packageName h.names_ne_nil
    hconventional.names
  rwa [joinDots_packageSegments, ← h.qualifiedName_eq] at hname

end HasNames

end DeclaredType

theorem Registry.keys_ofList {κ α : Type} [DecidableEq κ] (entries : List (κ × α)) :
    (Registry.ofList entries).keys = (entries.map Prod.fst).eraseDups := by
  induction entries using List.reverseRecOn with
  | nil => rfl
  | append_singleton entries entry ih =>
    rw [Registry.ofList, List.foldl_append, List.map_append, List.map_singleton, eraseDups_concat]
    change ((Registry.ofList entries).insert entry.1 entry.2).keys = _
    rw [Registry.insert, Registry.keys_update, ih]
    simp only [List.mem_eraseDups]

/-- Two entries with one key leave one, so nothing is lost if and only if the keys differ. -/
theorem Registry.keys_ofList_perm_iff {κ α : Type} [DecidableEq κ] {entries : List (κ × α)} :
    (Registry.ofList entries).keys.Perm (entries.map Prod.fst) ↔
      (entries.map Prod.fst).Nodup := by
  refine ⟨fun h ↦ h.nodup_iff.1 (Registry.ofList entries).nodup_keys, fun h ↦ ?_⟩
  rw [Registry.keys, Registry.entries_ofList h]

theorem mem_fst_or_snd_leadingPackage {segments : List String} {segment : String}
    (h : segment ∈ (leadingPackage segments).1 ∨ segment ∈ (leadingPackage segments).2) :
    segment ∈ segments := by
  rw [← append_leadingPackage segments]
  exact List.mem_append.2 h

/-- The names hold the characters of the key and of the reported package. -/
theorem forall_mem_controllerName {q : Char → Prop} (hdot : q '.') {key : String}
    {reported : Option String} (hkey : ∀ c ∈ key.toList, q c)
    (hreported : ∀ name ∈ reported, ∀ c ∈ name.toList, q c) :
    (∀ c ∈ (controllerName key reported).1.toList, q c) ∧
      ∀ c ∈ (controllerName key reported).2.toList, q c := by
  cases reported with
  | some packageName =>
    refine ⟨hreported packageName rfl, fun c hc ↦ hkey c ?_⟩
    simp only [controllerName, String.toList_ofList, List.mem_filter] at hc
    obtain ⟨hc, -⟩ := hc
    split at hc
    · exact hc
    · cases hafter : Text.after? (packageName.toList ++ ['.']) key.toList with
      | none => rwa [hafter] at hc
      | some rest =>
        rw [hafter] at hc
        rw [Text.after?_eq_some_iff.1 hafter]
        exact List.mem_append_right _ hc
  | none =>
    have hsegment : ∀ segment ∈ Text.splitDots key, ∀ c ∈ segment.toList, q c := by
      intro segment hsegment c hc
      obtain ⟨piece, hpiece, rfl⟩ := List.mem_map.1 hsegment
      rw [String.toList_ofList] at hc
      exact hkey c (mem_of_mem_splitAt hpiece c hc).1
    refine ⟨fun c hc ↦ ?_, fun c hc ↦ ?_⟩
    · simp only [controllerName, splitControllerName, Text.joinDots, String.toList_intercalate] at hc
      refine forall_mem_intercalate (List.forall_mem_singleton.2 hdot) (fun piece hpiece ↦ ?_) c hc
      obtain ⟨segment, hmem, rfl⟩ := List.mem_map.1 hpiece
      exact hsegment segment (mem_fst_or_snd_leadingPackage (.inl hmem))
    · simp only [controllerName, splitControllerName, String.toList_join, List.mem_flatMap] at hc
      obtain ⟨segment, hmem, hc⟩ := hc
      exact hsegment segment (mem_fst_or_snd_leadingPackage (.inr hmem)) c hc

namespace Model

variable {suffixes : Suffixes} {model : Model}

/-- The package and the class name of each controller. -/
def classNames (model : Model) : List (String × String) :=
  model.controllers.entries.map fun (key, controller) ↦ controllerName key controller.packageName

/-- The paths of the classes with a suffix. -/
def classPaths (suffix : String) (model : Model) : List String :=
  model.classNames.map fun (packageName, simpleName) ↦ classFile packageName (simpleName ++ suffix)

theorem keys_stubFiles {files : Files} (h : model.stubFiles suffixes = .ok files) :
    files.keys.Perm (model.classPaths suffixes.stub) ↔
      (model.classPaths suffixes.stub).Nodup := by
  obtain ⟨written, rfl, -, hpaths⟩ := exists_of_stubFiles_eq_ok h
  have hperm : (written.map Prod.fst).Perm (model.classPaths suffixes.stub) := by
    rw [hpaths, classPaths, classNames, List.map_map]
    exact (List.mergeSort_perm _ _).map _
  rw [← hperm.nodup_iff, ← Registry.keys_ofList_perm_iff]
  exact ⟨fun h ↦ h.trans hperm.symm, fun h ↦ h.trans hperm⟩

theorem keys_baseFiles :
    (model.baseFiles suffixes).keys.Perm (model.classPaths suffixes.base) ↔
      (model.classPaths suffixes.base).Nodup := by
  have hperm : ((model.sortedControllers.map fun (key, controller) ↦
      baseFile suffixes key controller).map Prod.fst).Perm (model.classPaths suffixes.base) := by
    rw [classPaths, classNames, List.map_map, List.map_map]
    exact (List.mergeSort_perm _ _).map _
  rw [baseFiles, ← hperm.nodup_iff, ← Registry.keys_ofList_perm_iff]
  exact ⟨fun h ↦ h.trans hperm.symm, fun h ↦ h.trans hperm⟩

/-- Different class names have different paths. -/
theorem nodup_classPaths_iff {suffix : String} (hsuffix : '/' ∉ suffix.toList)
    (hnames : ∀ name ∈ model.classNames, '/' ∉ name.1.toList ∧ '/' ∉ name.2.toList) :
    (model.classPaths suffix).Nodup ↔ model.classNames.Nodup := by
  refine ⟨List.Nodup.of_map _, fun h ↦ List.Nodup.map_on ?_ h⟩
  rintro ⟨packageName, name⟩ hname ⟨otherPackage, other⟩ hother heq
  have hplain {name : String} (h : '/' ∉ name.toList) : '/' ∉ (name ++ suffix).toList := by
    rw [String.toList_append, List.mem_append, not_or]
    exact ⟨h, hsuffix⟩
  obtain ⟨hnamePackage, hnamePlain⟩ := hnames _ hname
  obtain ⟨hotherPackage, hotherPlain⟩ := hnames _ hother
  obtain ⟨rfl, hclass⟩ := classFile_injective hnamePackage (hplain hnamePlain) hotherPackage
    (hplain hotherPlain) heq
  exact congrArg (packageName, ·) ((String.append_left_inj _).1 hclass)

/-- No stub class has the path of a base class. -/
theorem disjoint_classPaths
    (hnames : ∀ name ∈ model.classNames, '/' ∉ name.1.toList ∧ '/' ∉ name.2.toList) :
    (model.classPaths "Stub").Disjoint (model.classPaths "StubBase") := by
  intro path hstub hbase
  obtain ⟨⟨packageName, name⟩, hname, rfl⟩ := List.mem_map.1 hstub
  obtain ⟨⟨otherPackage, other⟩, hother, heq⟩ := List.mem_map.1 hbase
  obtain ⟨hnamePackage, hnamePlain⟩ := hnames _ hname
  obtain ⟨hotherPackage, hotherPlain⟩ := hnames _ hother
  obtain ⟨-, hclass⟩ := classFile_injective hotherPackage (by simp [hotherPlain]) hnamePackage
    (by simp [hnamePlain]) heq
  -- One name ends in `e`, the other one in `b`.
  have hlast := congrArg (fun s : String ↦ s.toList.getLast?) hclass
  simp at hlast

end Model

/-! ## Controllers of sources -/

/-- The facts about a controller and its endpoints. -/
def controllerFacts (controller : String) (facts : List Fact) : List Fact :=
  facts.filter (·.contributesTo? = some controller)

theorem mem_controllerFacts {controller : String} {facts : List Fact} {fact : Fact}
    (h : fact ∈ controllerFacts controller facts) :
    fact ∈ facts ∧ fact.controller = controller := by
  obtain ⟨hmem, hcontributes⟩ := List.mem_filter.1 h
  exact ⟨hmem, Fact.controller_of_contributesTo? (of_decide_eq_true hcontributes)⟩

/-- A controller of a round is described by the facts about it, and its endpoints are normalized. -/
theorem controller?_roundModel_eq_some_iff {order : VariableOrder} {facts : List Fact} {key : String}
    {controller : Controller} :
    (roundModel order facts).controller? key = some controller ↔
      controllerFacts key facts ≠ [] ∧
        { Controller.summary (controllerFacts key facts) with
          resources := (Controller.summary (controllerFacts key facts)).resources.mapValues
            (Resource.normalize order) } = controller := by
  rw [roundModel_eq, Model.normalize, Model.controller?, Model.mapResources,
    Registry.get?_mapValues, Option.map_eq_some_iff]
  constructor
  · rintro ⟨raw, hraw, rfl⟩
    obtain ⟨hne, rfl⟩ := Registry.get?_grouped_eq_some_iff.1 hraw
    exact ⟨hne, rfl⟩
  · rintro ⟨hne, rfl⟩
    exact ⟨_, Registry.get?_grouped_eq_some_iff.2 ⟨hne, rfl⟩, rfl⟩

theorem controller?_roundModel {order : VariableOrder} {facts : List Fact} {key : String}
    {controller : Controller}
    (h : (roundModel order facts).controller? key = some controller) :
    controllerFacts key facts ≠ [] ∧ ∃ resources,
      controller = { Controller.summary (controllerFacts key facts) with resources } := by
  obtain ⟨hne, rfl⟩ := controller?_roundModel_eq_some_iff.1 h
  exact ⟨hne, _, rfl⟩

section Sources

variable {sources : List String} {order : VariableOrder} {key : String} {controller : Controller}

theorem exists_declaredType_of_mem_sources {fact : Fact} (h : fact ∈ sources.flatMap scan) :
    ∃ type ∈ sources.flatMap declaredTypes, fact.IsAbout type := by
  obtain ⟨source, hsource, h⟩ := List.mem_flatMap.1 h
  obtain ⟨type, htype, habout⟩ := exists_declaredType_of_mem_scan h
  exact ⟨type, List.mem_flatMap.2 ⟨source, hsource, htype⟩, habout⟩

/-- Every controller is a declared type, and a package that it has was reported for one. -/
theorem exists_declaredType_of_controller?
    (h : (roundModel order (sources.flatMap scan)).controller? key = some controller) :
    ∃ type ∈ sources.flatMap declaredTypes, type.qualifiedName = key ∧
      (controller.packageName = some type.packageName ∨ controller.packageName = none) := by
  obtain ⟨hne, resources, rfl⟩ := controller?_roundModel h
  cases hpackage : lastSome Fact.packageName
      ((controllerFacts key (sources.flatMap scan)).filter (·.kind = .controller)) with
  | none =>
    obtain ⟨fact, hfact⟩ := List.exists_mem_of_ne_nil _ hne
    obtain ⟨hmem, hcontroller⟩ := mem_controllerFacts hfact
    obtain ⟨type, htype, habout⟩ := exists_declaredType_of_mem_sources hmem
    exact ⟨type, htype, habout.controller.symm.trans hcontroller, .inr hpackage⟩
  | some packageName =>
    obtain ⟨fact, hfact, hname⟩ := exists_of_lastSome_eq_some hpackage
    obtain ⟨hfact, hkind⟩ := List.mem_filter.1 hfact
    obtain ⟨hmem, hcontroller⟩ := mem_controllerFacts hfact
    obtain ⟨type, htype, habout⟩ := exists_declaredType_of_mem_sources hmem
    have hreported := (habout.packageName (of_decide_eq_true hkind)).2
    rw [hname] at hreported
    exact ⟨type, htype, habout.controller.symm.trans hcontroller,
      .inl (hpackage.trans hreported)⟩

theorem hasNames_of_mem_sources {type : DeclaredType}
    (h : type ∈ sources.flatMap declaredTypes) : type.HasNames := by
  obtain ⟨source, -, h⟩ := List.mem_flatMap.1 h
  exact hasNames_of_mem_declaredTypes h

/-- The package and the class name of a controller hold no slash. -/
theorem slash_not_mem_classNames {name : String × String}
    (h : name ∈ (roundModel order (sources.flatMap scan)).classNames) :
    '/' ∉ name.1.toList ∧ '/' ∉ name.2.toList := by
  obtain ⟨⟨key, controller⟩, hentry, rfl⟩ := List.mem_map.1 h
  obtain ⟨type, htype, rfl, hpackage⟩ :=
    exists_declaredType_of_controller? (Registry.get?_eq_some_iff.2 hentry)
  have hnames := hasNames_of_mem_sources htype
  have hplain {c : Char} (hc : Text.isWordOrDot c = true) : c ≠ '/' := by
    rintro rfl
    exact absurd hc (by decide)
  have hpackageName : ∀ c ∈ type.packageName.toList, c ≠ '/' := fun c hc ↦
    hplain (hnames.packageName c hc)
  have hkey : ∀ c ∈ type.qualifiedName.toList, c ≠ '/' := fun c hc ↦
    hplain (hnames.isWordOrDot_qualifiedName c hc)
  have hreported : ∀ name ∈ controller.packageName, ∀ c ∈ name.toList, c ≠ '/' := by
    intro name hname
    rcases hpackage with hpackage | hpackage
    · rw [hpackage, Option.mem_some_iff] at hname
      rwa [← hname]
    · rw [hpackage] at hname
      cases hname
  have hall := @forall_mem_controllerName (· ≠ '/') (by decide) _ _ hkey hreported
  exact ⟨fun hmem ↦ hall.1 _ hmem rfl, fun hmem ↦ hall.2 _ hmem rfl⟩

end Sources

/-- No two types have one qualified name, each type is annotated as a controller or follows the
conventions for names, and no two types of one package are nested differently under names that
are the same when they are joined. -/
structure HasOwnClasses (types : List DeclaredType) : Prop where
  distinct : (types.map DeclaredType.qualifiedName).Nodup
  located : ∀ type ∈ types, type.isController = true ∨ type.IsConventional
  joined : ∀ type ∈ types, ∀ other ∈ types, type.packageName = other.packageName →
    type.className = other.className → type.names = other.names

namespace HasOwnClasses

variable {sources : List String} {order : VariableOrder} {key : String} {controller : Controller}
  (h : HasOwnClasses (sources.flatMap declaredTypes))

include h

/-- The classes of a controller are named after the type that it is. -/
theorem exists_controllerName_eq
    (hcontroller : (roundModel order (sources.flatMap scan)).controller? key = some controller) :
    ∃ type ∈ sources.flatMap declaredTypes, type.qualifiedName = key ∧
      controllerName key controller.packageName = (type.packageName, type.className) := by
  obtain ⟨type, htype, rfl, hpackage⟩ := exists_declaredType_of_controller? hcontroller
  have hnames := hasNames_of_mem_sources htype
  refine ⟨type, htype, rfl, ?_⟩
  rcases hpackage with hpackage | hpackage
  · rw [hpackage, hnames.controllerName_some]
  · rw [hpackage]
    refine hnames.controllerName_none ((h.located type htype).resolve_left fun hannotated ↦ ?_)
    -- An annotated type would have reported its package.
    obtain ⟨source, hsource, hdeclared⟩ := List.mem_flatMap.1 htype
    obtain ⟨fact, hfact, hkind, hname, hreported⟩ :=
      exists_fact_of_isController hdeclared hannotated
    obtain ⟨-, resources, rfl⟩ := controller?_roundModel hcontroller
    have hmissing := lastSome_eq_none_iff.1 hpackage fact
    rw [hreported] at hmissing
    refine absurd (hmissing (List.mem_filter.2 ⟨List.mem_filter.2 ⟨?_, ?_⟩, ?_⟩)) nofun
    · exact List.mem_flatMap.2 ⟨source, hsource, hfact⟩
    · rw [Fact.contributesTo?_of_kind hkind, hname]
      exact decide_eq_true rfl
    · exact decide_eq_true hkind

theorem nodup_classNames : (roundModel order (sources.flatMap scan)).classNames.Nodup := by
  refine List.Nodup.map_on ?_ (List.Nodup.of_map _
    (roundModel order (sources.flatMap scan)).controllers.nodup_keys)
  rintro ⟨key, controller⟩ hentry ⟨otherKey, other⟩ hother heq
  have hget := Registry.get?_eq_some_iff.2 hentry
  have hgetOther := Registry.get?_eq_some_iff.2 hother
  obtain ⟨type, htype, rfl, hname⟩ := h.exists_controllerName_eq hget
  obtain ⟨otherType, hotherType, rfl, hotherName⟩ := h.exists_controllerName_eq hgetOther
  simp only [hname, hotherName, Prod.mk.injEq] at heq
  have hkeys : type.qualifiedName = otherType.qualifiedName := by
    rw [DeclaredType.qualifiedName, DeclaredType.qualifiedName, heq.1,
      h.joined type htype otherType hotherType heq.1 heq.2]
  rw [hkeys, hgetOther] at hget
  rw [hkeys, Option.some.inj hget]

end HasOwnClasses

/-- For all sources, with the default suffixes: the paths of all generated classes are different,
and so there is one stub file and one base file for each controller, if and only if no two
controllers have classes of one name in one package; and they have none if all types have
different qualified names, can be located, and are not confused when nested names are joined. -/
theorem one_file_per_controller (sources : List String) (order : VariableOrder) :
    let model := roundModel order (sources.flatMap scan)
    ∃ stubs, model.stubFiles {} = .ok stubs ∧
      (stubs.keys.Perm (model.classPaths "Stub") ↔ model.classNames.Nodup) ∧
      ((model.baseFiles {}).keys.Perm (model.classPaths "StubBase") ↔ model.classNames.Nodup) ∧
      ((model.classPaths "Stub" ++ model.classPaths "StubBase").Nodup ↔
        model.classNames.Nodup) ∧
      (HasOwnClasses (sources.flatMap declaredTypes) → model.classNames.Nodup) := by
  intro model
  have hnames : ∀ name ∈ model.classNames, '/' ∉ name.1.toList ∧ '/' ∉ name.2.toList :=
    fun _ ↦ slash_not_mem_classNames
  have hstub : (model.classPaths "Stub").Nodup ↔ model.classNames.Nodup :=
    Model.nodup_classPaths_iff (by decide) hnames
  have hbase : (model.classPaths "StubBase").Nodup ↔ model.classNames.Nodup :=
    Model.nodup_classPaths_iff (by decide) hnames
  obtain ⟨stubs, hstubs⟩ :=
    Model.exists_stubFiles (fun _ _ _ ↦ (hasNamedParameters_scan sources).renderable) {}
  refine ⟨stubs, hstubs, (Model.keys_stubFiles hstubs).trans hstub,
    Model.keys_baseFiles.trans hbase, ?_, HasOwnClasses.nodup_classNames⟩
  rw [List.nodup_append', hstub, hbase, and_self_left,
    and_iff_left (Model.disjoint_classPaths hnames)]

/-- Types that are nested, and one that is found by the conventions. -/
theorem one_file_per_controller_nested :
    let sources := ["package com.example;
      @RestController class A \x7b @RestController class B \x7b \x7d \x7d",
      "package com.example; class C \x7b \x7d"]
    let model := roundModel .textual (sources.flatMap scan)
    HasOwnClasses (sources.flatMap declaredTypes) ∧
      model.classNames = [("com.example", "A"), ("com.example", "AB")] ∧
      ∃ stubs, model.stubFiles {} = .ok stubs ∧ stubs.keys.Perm (model.classPaths "Stub") ∧
        (model.baseFiles {}).keys.Perm (model.classPaths "StubBase") := by
  intro sources model
  have hown : HasOwnClasses (sources.flatMap declaredTypes) := by
    constructor <;> decide +kernel
  obtain ⟨stubs, hstubs, hstub, hbase, -, hdistinct⟩ := one_file_per_controller sources .textual
  have hnames := hdistinct hown
  exact ⟨hown, by decide +kernel, stubs, hstubs, hstub.2 hnames, hbase.2 hnames⟩

/-- A nested type and a type with the joined name: of two controllers one is left. -/
theorem class_file_lost :
    let sources := ["class A \x7b @RestController class B \x7b \x7d \x7d
      @RestController class AB \x7b \x7d"]
    let model := roundModel .textual (sources.flatMap scan)
    (sources.flatMap declaredTypes).map DeclaredType.qualifiedName = ["A", "A.B", "AB"] ∧
    model.controllers.keys = ["A.B", "AB"] ∧
    model.classPaths "Stub" = ["ABStub.java", "ABStub.java"] ∧
    ∃ stubs, model.stubFiles {} = .ok stubs ∧ stubs.keys = ["ABStub.java"] ∧
      (model.baseFiles {}).keys = ["ABStubBase.java"] := by
  intro sources model
  have hmodel : model = ⟨.ofList [("A.B", { packageName := some "" }),
      ("AB", { packageName := some "" })]⟩ := by
    decide +kernel
  have hsorted : model.sortedControllers = model.controllers.entries := by
    rw [hmodel]
    exact List.mergeSort_of_pairwise (by decide +kernel)
  obtain ⟨stubs, hstubs⟩ :=
    Model.exists_stubFiles (fun _ _ _ ↦ (hasNamedParameters_scan sources).renderable) {}
  refine ⟨by decide +kernel, by decide +kernel, by decide +kernel, stubs, hstubs, ?_, ?_⟩
  · obtain ⟨written, rfl, -, hpaths⟩ := Model.exists_of_stubFiles_eq_ok hstubs
    rw [Registry.keys_ofList, hpaths, hsorted, hmodel]
    decide +kernel
  · rw [Model.baseFiles, Registry.keys_ofList, hsorted, hmodel]
    decide +kernel

end EndpointStubs
