import EndpointStubs.Proofs.DeclaredMethods
import EndpointStubs.Stub.Name

/-!
# The types of a source

The types that a source declares, each with its package and the names of the
types around it. Every fact is about such a type, and a type with the
annotation of a controller reports its package. From there its package and the
name of its classes are those of the declaration; for the other types they are
guessed from the qualified name, rightly if the names follow the conventions.
-/

namespace EndpointStubs

open Java

/-- A type that a source declares. -/
structure DeclaredType where
  packageName : String
  /-- The names of the types around it, from the outside, and its own. -/
  names : List String
  annotations : List AnnotationUse
  deriving DecidableEq

namespace DeclaredType

def qualifiedName (type : DeclaredType) : String :=
  type.names.foldl qualify type.packageName

/-- What the names of its classes start with. -/
def className (type : DeclaredType) : String :=
  String.join type.names

/-- The type reports its package. -/
def isController (type : DeclaredType) : Bool :=
  type.annotations.any (·.name = "RestController")

end DeclaredType

namespace Java

mutual

/-- The types of a member, below types with the given names. -/
def Member.types (packageName : String) (around : List String) : Member → List DeclaredType
  | .method _ => []
  | .type annotations name members =>
    ⟨packageName, around ++ [name], annotations⟩ ::
      Member.listTypes packageName (around ++ [name]) members

def Member.listTypes (packageName : String) (around : List String) : List Member → List DeclaredType
  | [] => []
  | member :: members =>
    member.types packageName around ++ listTypes packageName around members

end

end Java

/-- The types that a source declares. -/
def declaredTypes (source : String) : List DeclaredType :=
  let outline := Outline.ofText source.toList
  Member.listTypes outline.packageName [] outline.types

namespace Java

variable {packageName : String} {type : DeclaredType}

mutual

theorem Member.packageName_of_mem_types {around : List String} {member : Member}
    (h : type ∈ member.types packageName around) :
    type.packageName = packageName ∧ type.names ≠ [] := by
  cases member with
  | method m =>
    rw [Member.types] at h
    cases h
  | type annotations name members =>
    rw [Member.types] at h
    rcases List.mem_cons.1 h with rfl | h
    · exact ⟨rfl, List.append_ne_nil_of_right_ne_nil _ (List.cons_ne_nil _ _)⟩
    · exact packageName_of_mem_listTypes h

theorem Member.packageName_of_mem_listTypes {around : List String} {members : List Member}
    (h : type ∈ Member.listTypes packageName around members) :
    type.packageName = packageName ∧ type.names ≠ [] := by
  cases members with
  | nil =>
    rw [Member.listTypes] at h
    cases h
  | cons member members =>
    rw [Member.listTypes, List.mem_append] at h
    rcases h with h | h
    · exact packageName_of_mem_types h
    · exact packageName_of_mem_listTypes h

end

theorem Member.mem_listTypes_iff {around : List String} {members : List Member} :
    type ∈ Member.listTypes packageName around members ↔
      ∃ member ∈ members, type ∈ member.types packageName around := by
  induction members with
  | nil => simp [Member.listTypes]
  | cons member members ih =>
    rw [Member.listTypes, List.mem_append, ih, List.exists_mem_cons_iff]

/-- Members that are no types have no types below them. -/
theorem Member.listTypes_filter (packageName : String) (around : List String)
    (members : List Member) :
    listTypes packageName around (members.filter Member.isType) =
      listTypes packageName around members := by
  induction members with
  | nil => rfl
  | cons member members ih =>
    cases member with
    | method m => rw [List.filter_cons_of_neg (by simp [isType]), ih, listTypes, types]; rfl
    | type annotations name inner =>
      rw [List.filter_cons_of_pos rfl, listTypes, ih, listTypes]

theorem isName_of_typeName? {declaration : List Char} {name : String}
    (h : typeName? declaration = some name) : IsName name := by
  unfold typeName? at h
  split at h
  · cases h
  · dsimp only at h
    split at h
    · cases h
    · rename_i hnot
      obtain rfl := Option.some.inj h
      rw [not_or] at hnot
      exact isName_ofList (Bool.eq_false_iff.2 hnot.2) fun c hc ↦ List.mem_takeWhile_imp hc

/-- Whatever is read as a type has a proper name. -/
theorem isName_of_mem_members {following : List Char} {text : List Lexeme} {around : List String}
    (h : type ∈ Member.listTypes packageName around (members following text)) :
    ∀ name ∈ type.names, name ∈ around ∨ IsName name := by
  obtain ⟨member, hmember, htype⟩ := Member.mem_listTypes_iff.1 h
  refine forall_mem_members (P := fun _ member ↦ ∀ around,
    ∀ type ∈ member.types packageName around, ∀ name ∈ type.names, name ∈ around ∨ IsName name)
    ?_ ?_ id member hmember around type htype
  · intro _ _ _ _ _ _ m _ _ around type htype
    rw [Member.types] at htype
    cases htype
  · intro _ _ _ _ _ name inner _ hname hinner around type htype
    have hproper : ∀ other ∈ around ++ [name], other ∈ around ∨ IsName other := by
      intro other hother
      refine (List.mem_append.1 hother).imp_right fun hother ↦ ?_
      rw [List.mem_singleton.1 hother]
      exact isName_of_typeName? hname
    rw [Member.types] at htype
    rcases List.mem_cons.1 htype with rfl | htype
    · exact hproper
    · obtain ⟨member, hmember, htype⟩ := Member.mem_listTypes_iff.1 htype
      intro other hother
      exact (hinner member hmember _ type htype other hother).elim (hproper other) .inr

theorem isWordOrDot_of_packageLine? {line : List Char} {name : String}
    (h : packageLine? line = some name) : ∀ c ∈ name.toList, Text.isWordOrDot c = true := by
  unfold packageLine? at h
  obtain ⟨rest, -, h⟩ := Option.bind_eq_some_iff.1 h
  dsimp only at h
  split at h
  · cases h
  · obtain ⟨-, -, h⟩ := Option.bind_eq_some_iff.1 h
    obtain rfl := Option.some.inj h
    rw [String.toList_ofList]
    exact fun c hc ↦ List.mem_takeWhile_imp hc

theorem isWordOrDot_of_packageName (text : List Char) :
    ∀ c ∈ (Java.packageName text).toList, Text.isWordOrDot c = true := by
  rw [Java.packageName]
  cases hfound : (lineStarts text).findSome? packageLine? with
  | none => nofun
  | some name =>
    obtain ⟨line, -, hline⟩ := List.exists_of_findSome?_eq_some hfound
    exact isWordOrDot_of_packageLine? hline

end Java

/-- Names of types are proper names, and the package is a dotted name. -/
structure DeclaredType.HasNames (type : DeclaredType) : Prop where
  packageName : ∀ c ∈ type.packageName.toList, Text.isWordOrDot c = true
  names_ne_nil : type.names ≠ []
  names : ∀ name ∈ type.names, IsName name

theorem hasNames_of_mem_declaredTypes {source : String} {type : DeclaredType}
    (h : type ∈ declaredTypes source) : type.HasNames := by
  obtain ⟨hpackage, hne⟩ := Member.packageName_of_mem_listTypes h
  refine ⟨?_, hne, fun name hname ↦ ?_⟩
  · rw [hpackage]
    exact Java.isWordOrDot_of_packageName _
  · rw [declaredTypes, Outline.ofText, Member.listTypes_filter] at h
    exact (isName_of_mem_members h name hname).resolve_left List.not_mem_nil

theorem FactKind.ofAnnotationName_eq_controller_iff {name : String} :
    ofAnnotationName name = .controller ↔ name = "RestController" := by
  refine ⟨fun h ↦ ?_, fun h ↦ h ▸ rfl⟩
  unfold ofAnnotationName at h
  split at h <;> first | rfl | cases h

theorem Site.kindOf_eq_controller_iff {site : Site} {name : String} :
    site.kindOf name = .controller ↔ site = .type ∧ name = "RestController" := by
  rw [← FactKind.ofAnnotationName_eq_controller_iff, kindOf]
  cases site <;> cases FactKind.ofAnnotationName name <;> decide

/-- The fact is about the type; if it is about its being a controller, it says its package. -/
structure Fact.IsAbout (fact : Fact) (type : DeclaredType) : Prop where
  controller : fact.controller = type.qualifiedName
  packageName : fact.kind = .controller →
    type.isController = true ∧ fact.packageName = some type.packageName

section Members

variable {packageName : String} {imports : List String} {fact : Fact}

theorem isAbout_of_mem_typeFacts {type : DeclaredType}
    (h : fact ∈ typeFacts type.packageName imports type.qualifiedName type.annotations) :
    fact.IsAbout type := by
  obtain ⟨a, ha, rfl⟩ := List.mem_map.1 h
  dsimp only
  refine ⟨by split <;> rfl, fun hkind ↦ ?_⟩
  have hcontroller : Site.type.kindOf a.name = .controller := by
    split at hkind <;> exact hkind
  rw [if_pos hcontroller]
  refine ⟨List.any_eq_true.2 ⟨a, (List.mem_filter.1 ha).1, ?_⟩, rfl⟩
  exact decide_eq_true (Site.kindOf_eq_controller_iff.1 hcontroller).2

theorem isAbout_of_mem_methodFacts {type : DeclaredType} {m : Java.Method}
    (h : fact ∈ methodFacts type.qualifiedName m) : fact.IsAbout type := by
  rcases mem_methodFacts_iff.1 h with ⟨a, -, rfl⟩ | ⟨p, -, a, -, rfl⟩
  · refine ⟨?_, fun hkind ↦ ?_⟩
    · simp only [routeFact]
      split <;> rfl
    · rw [routeFact_kind, Site.kindOf_eq_controller_iff] at hkind
      cases hkind.1
  · refine ⟨rfl, fun hkind ↦ ?_⟩
    cases (Site.kindOf_eq_controller_iff.1 hkind).1

mutual

theorem exists_type_of_mem_memberFacts {around : List String} {member : Member}
    (h : fact ∈ memberFacts packageName imports (around.foldl qualify packageName) member) :
    (member.isType = false ∧
        ∃ m : Java.Method, fact ∈ methodFacts (around.foldl qualify packageName) m) ∨
      ∃ type ∈ member.types packageName around, fact.IsAbout type := by
  cases member with
  | method m =>
    rw [memberFacts] at h
    exact .inl ⟨rfl, m, h⟩
  | type annotations name members =>
    let type : DeclaredType := ⟨packageName, around ++ [name], annotations⟩
    have hname : qualify (around.foldl qualify packageName) name = type.qualifiedName := by
      rw [DeclaredType.qualifiedName, List.foldl_append]
      rfl
    rw [memberFacts, List.mem_append, hname] at h
    rw [Member.types]
    right
    rcases h with h | h
    · exact ⟨type, List.mem_cons_self, isAbout_of_mem_typeFacts h⟩
    · rcases exists_type_of_mem_membersFacts h with ⟨-, m, hm⟩ | ⟨inner, hinner, habout⟩
      · exact ⟨type, List.mem_cons_self, isAbout_of_mem_methodFacts hm⟩
      · exact ⟨inner, List.mem_cons_of_mem _ hinner, habout⟩

/-- A fact of members is about a method among them or about a type below them. -/
theorem exists_type_of_mem_membersFacts {around : List String} {members : List Member}
    (h : fact ∈ membersFacts packageName imports (around.foldl qualify packageName) members) :
    ((∃ member ∈ members, member.isType = false) ∧
        ∃ m : Java.Method, fact ∈ methodFacts (around.foldl qualify packageName) m) ∨
      ∃ type ∈ Member.listTypes packageName around members, fact.IsAbout type := by
  cases members with
  | nil =>
    rw [membersFacts] at h
    cases h
  | cons member members =>
    rw [membersFacts, List.mem_append] at h
    rw [Member.listTypes]
    rcases h with h | h
    · rcases exists_type_of_mem_memberFacts h with ⟨hmember, hmethod⟩ | ⟨type, htype, habout⟩
      · exact .inl ⟨⟨member, List.mem_cons_self, hmember⟩, hmethod⟩
      · exact .inr ⟨type, List.mem_append_left _ htype, habout⟩
    · rcases exists_type_of_mem_membersFacts h with ⟨⟨other, hother⟩, hmethod⟩ | ⟨type, htype, habout⟩
      · exact .inl ⟨⟨other, List.mem_cons_of_mem _ hother.1, hother.2⟩, hmethod⟩
      · exact .inr ⟨type, List.mem_append_right _ htype, habout⟩

end

mutual

theorem mem_memberFacts_of_mem_types {around : List String} {member : Member}
    {type : DeclaredType} (htype : type ∈ member.types packageName around)
    (h : fact ∈ typeFacts packageName imports type.qualifiedName type.annotations) :
    fact ∈ memberFacts packageName imports (around.foldl qualify packageName) member := by
  cases member with
  | method m =>
    rw [Member.types] at htype
    cases htype
  | type annotations name members =>
    have hname : qualify (around.foldl qualify packageName) name =
        (around ++ [name]).foldl qualify packageName := by
      rw [List.foldl_append]
      rfl
    rw [memberFacts, List.mem_append, hname]
    rw [Member.types] at htype
    rcases List.mem_cons.1 htype with rfl | htype
    · exact .inl h
    · exact .inr (mem_membersFacts_of_mem_listTypes htype h)

/-- All facts of the types of the tree are reported. -/
theorem mem_membersFacts_of_mem_listTypes {around : List String} {members : List Member}
    {type : DeclaredType} (htype : type ∈ Member.listTypes packageName around members)
    (h : fact ∈ typeFacts packageName imports type.qualifiedName type.annotations) :
    fact ∈ membersFacts packageName imports (around.foldl qualify packageName) members := by
  cases members with
  | nil =>
    rw [Member.listTypes] at htype
    cases htype
  | cons member members =>
    rw [Member.listTypes, List.mem_append] at htype
    rw [membersFacts, List.mem_append]
    rcases htype with htype | htype
    · exact .inl (mem_memberFacts_of_mem_types htype h)
    · exact .inr (mem_membersFacts_of_mem_listTypes htype h)

end

end Members

/-- Every fact is about a declared type. -/
theorem exists_declaredType_of_mem_scan {source : String} {fact : Fact} (h : fact ∈ scan source) :
    ∃ type ∈ declaredTypes source, fact.IsAbout type := by
  rcases @exists_type_of_mem_membersFacts _ _ _ [] _ h with ⟨⟨member, hmember, htype⟩, -⟩ | h
  · rw [(List.mem_filter.1 hmember).2] at htype
    cases htype
  · exact h

/-- A declared type with the annotation of a controller reports its package. -/
theorem exists_fact_of_isController {source : String} {type : DeclaredType}
    (h : type ∈ declaredTypes source) (hcontroller : type.isController = true) :
    ∃ fact ∈ scan source, fact.kind = .controller ∧ fact.controller = type.qualifiedName ∧
      fact.packageName = some type.packageName := by
  obtain ⟨a, ha, hname⟩ := List.any_eq_true.1 hcontroller
  rw [decide_eq_true_eq] at hname
  obtain ⟨hpackage, -⟩ := Member.packageName_of_mem_listTypes h
  have hkind : Site.type.kindOf a.name = .controller :=
    Site.kindOf_eq_controller_iff.2 ⟨rfl, hname⟩
  have hreported : a ∈ reported type.annotations :=
    List.mem_filter.2 ⟨ha, by rw [hname]; decide⟩
  refine ⟨_, @mem_membersFacts_of_mem_listTypes _ _ _ [] _ _ h
    (List.mem_map.2 ⟨a, hreported, rfl⟩), ?_⟩
  simp only [hkind, if_true, hpackage, and_self]

end EndpointStubs
