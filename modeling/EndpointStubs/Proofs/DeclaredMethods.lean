import EndpointStubs.Fact.Scan
import EndpointStubs.Proofs.FoldSummary
import EndpointStubs.Proofs.MemberReading

/-!
# The methods of a source

The methods that a source declares, each with the qualified name of its type,
and the facts that are reported for them. Every route or parameter fact comes
from such a method, and whatever the text of the source is, it says all that is
needed to place it: the method, the type, and a proper name for a parameter.
-/

namespace EndpointStubs

/-- A word that is not empty. -/
def IsName (name : String) : Prop :=
  name ≠ "" ∧ ∀ c ∈ name.toList, Text.isWord c = true

theorem isName_ofList {chars : List Char} (hne : chars.isEmpty = false)
    (hword : ∀ c ∈ chars, Text.isWord c = true) : IsName (.ofList chars) := by
  refine ⟨fun hempty ↦ ?_, by rwa [String.toList_ofList]⟩
  have hchars := congrArg String.toList hempty
  rw [String.toList_ofList] at hchars
  rw [hchars] at hne
  cases hne

namespace Java

/-- The method and its parameters have proper names. -/
structure Method.HasNames (method : Method) : Prop where
  name : IsName method.name
  parameters : ∀ p ∈ method.parameters, IsName p.name

theorem forall_mem_splitTrailing {p : Char → Bool} {text : List Char} :
    ∀ c ∈ (Text.splitTrailing p text).2, p c = true := by
  intro c hc
  exact List.mem_takeWhile_imp (List.mem_reverse.1 hc)

theorem isName_of_typedHead? {text : List Char} {head : MethodHead}
    (h : typedHead? text = some head) : IsName head.name := by
  unfold typedHead? at h
  split at h
  · dsimp only at h
    split at h
    · cases h
    · rename_i hnot
      obtain rfl := Option.some.inj h
      rw [not_or] at hnot
      exact isName_ofList (Bool.eq_false_iff.2 hnot.1) forall_mem_splitTrailing
  · cases h

theorem isName_of_methodHead? {declaration : List Char} {head : MethodHead}
    (h : methodHead? declaration = some head) : IsName head.name := by
  unfold methodHead? at h
  split at h
  · split at h
    · -- The type parameters are skipped with or without the blanks after them, or not at all.
      rcases (Option.orElse_eq_some _ _ _).1 h with hread | ⟨-, h⟩
      · exact isName_of_typedHead? hread
      · rcases (Option.orElse_eq_some _ _ _).1 h with hread | ⟨-, hread⟩ <;>
          exact isName_of_typedHead? hread
    · exact isName_of_typedHead? h
  · exact isName_of_typedHead? h

theorem isName_of_parameter? {item : List Lexeme} {p : Parameter} (h : parameter? item = some p) :
    IsName p.name := by
  obtain ⟨⟨type, name⟩, hname, rfl⟩ := Option.map_eq_some_iff.1 h
  unfold typeAndName? at hname
  dsimp only at hname
  split at hname
  · cases hname
  · rename_i hnot
    obtain ⟨rfl, rfl⟩ := Prod.mk.inj (Option.some.inj hname)
    rw [not_or] at hnot
    exact isName_ofList (Bool.eq_false_iff.2 hnot.1) forall_mem_splitTrailing

theorem hasNames_of_method? {annotations : List AnnotationUse} {declaration after : List Lexeme}
    {following : List Char} {m : Method}
    (h : method? annotations declaration after following = some m) : m.HasNames := by
  obtain ⟨head, list, hhead, -, rfl⟩ := method?_eq_some h
  refine ⟨isName_of_methodHead? hhead, fun p hp ↦ ?_⟩
  obtain ⟨item, -, hitem⟩ := List.mem_filterMap.1 hp
  exact isName_of_parameter? hitem

mutual

/-- The methods of a member of `outer`, each with the qualified name of its type. -/
def Member.methods (outer : String) : Member → List (String × Method)
  | .method m => [(outer, m)]
  | .type _ name members => Member.listMethods (qualify outer name) members

def Member.listMethods (outer : String) : List Member → List (String × Method)
  | [] => []
  | member :: members => member.methods outer ++ listMethods outer members

end

theorem Member.listMethods_append (outer : String) (ms ns : List Member) :
    listMethods outer (ms ++ ns) = listMethods outer ms ++ listMethods outer ns := by
  induction ms with
  | nil => rfl
  | cons m ms ih => rw [List.cons_append, listMethods, ih, listMethods, List.append_assoc]

theorem Member.mem_listMethods_iff {outer : String} {members : List Member}
    {x : String × Method} :
    x ∈ listMethods outer members ↔ ∃ member ∈ members, x ∈ member.methods outer := by
  induction members with
  | nil => simp [listMethods]
  | cons member members ih => rw [listMethods, List.mem_append, ih, List.exists_mem_cons_iff]

/-- Keeping only some of the members keeps only some of the methods. -/
theorem Member.mem_listMethods_of_filter {outer : String} {keep : Member → Bool}
    {members : List Member} {x : String × Method}
    (h : x ∈ listMethods outer (members.filter keep)) : x ∈ listMethods outer members := by
  obtain ⟨member, hmember, hx⟩ := mem_listMethods_iff.1 h
  exact mem_listMethods_iff.2 ⟨member, (List.mem_filter.1 hmember).1, hx⟩

/-- Whatever is read as a method has proper names. -/
theorem hasNames_of_mem_members {following : List Char} {text : List Lexeme} {outer : String}
    {x : String × Method} (h : x ∈ Member.listMethods outer (members following text)) :
    x.2.HasNames := by
  obtain ⟨member, hmember, hx⟩ := Member.mem_listMethods_iff.1 h
  refine forall_mem_members (P := fun _ member ↦
    ∀ outer, ∀ x ∈ member.methods outer, x.2.HasNames) ?_ ?_ id member hmember outer x hx
  · intro _ _ _ _ _ _ m _ hm outer x hx
    rw [Member.methods, List.mem_singleton] at hx
    rw [hx]
    exact hasNames_of_method? hm
  · intro _ _ _ _ _ name inner _ _ hinner outer x hx
    rw [Member.methods] at hx
    obtain ⟨member, hmember, hx⟩ := Member.mem_listMethods_iff.1 hx
    exact hinner member hmember (qualify outer name) x hx

end Java

open Java

/-- The methods that a source declares. -/
def declaredMethods (source : String) : List (String × Java.Method) :=
  let outline := Outline.ofText source.toList
  Member.listMethods outline.packageName outline.types

theorem hasNames_of_mem_declaredMethods {source : String} {x : String × Java.Method}
    (h : x ∈ declaredMethods source) : x.2.HasNames :=
  hasNames_of_mem_members (Member.mem_listMethods_of_filter h)

theorem Site.kindOf_eq_unknown_or (site : Site) (name : String) :
    site.kindOf name = .unknown ∨ site.allows (site.kindOf name) = true := by
  simp only [kindOf]
  split
  · rename_i hallows
    exact .inr hallows
  · exact .inl rfl

/-- A kind of annotation belongs on one site only. -/
theorem Site.not_allows_kindOf {site other : Site} (h : site ≠ other) (name : String) :
    site.allows (other.kindOf name) = false := by
  rcases other.kindOf_eq_unknown_or name with hunknown | hallows
  · rw [hunknown]
    cases site <;> rfl
  · generalize other.kindOf name = kind at hallows ⊢
    cases site <;> cases other <;> cases kind <;>
      first | rfl | exact absurd rfl h | cases hallows

namespace Fact

/-- The fact is about a query argument, a path variable or the request body. -/
def isParameter (fact : Fact) : Bool :=
  Site.parameter.allows fact.kind

/-- The fact is about a method or one of its parameters. -/
def isAboutMethod (fact : Fact) : Bool :=
  fact.isRoute || fact.isParameter

theorem isAboutMethod_iff {fact : Fact} :
    fact.isAboutMethod = true ↔ fact.kind ≠ .controller ∧ fact.kind ≠ .unknown := by
  cases hkind : fact.kind <;>
    simp [isAboutMethod, isRoute, routeMethod?, isParameter, Site.allows, hkind]

/-- The fact says which method it is about and what the model needs of it. -/
structure IsComplete (fact : Fact) : Prop where
  methodKey : fact.methodKey ≠ none
  methodName : ∃ name, fact.methodName = some name ∧ IsName name
  typeText : fact.typeText ≠ none
  /-- A parameter is named, and shown by its name. -/
  name : fact.isParameter = true → IsName fact.element ∧ fact.name = some fact.element

end Fact

theorem isAboutMethod_of_mem_typeFacts {packageName : String} {imports : List String}
    {controller : String} {annotations : List AnnotationUse} {fact : Fact}
    (h : fact ∈ typeFacts packageName imports controller annotations) :
    fact.isAboutMethod = false := by
  obtain ⟨a, -, rfl⟩ := List.mem_map.1 h
  rw [← Bool.not_eq_true, Fact.isAboutMethod_iff, not_and_or, not_not, not_not]
  dsimp only
  rcases Site.type.kindOf_eq_unknown_or a.name with hkind | hkind
  · right
    rw [if_neg (by simp [hkind]), hkind]
  · left
    rw [Site.allows, decide_eq_true_eq] at hkind
    rw [if_pos hkind, hkind]

/-- A fact about a method is a fact about the method itself or about one of its parameters. -/
theorem mem_methodFacts_iff {controller : String} {m : Java.Method} {fact : Fact} :
    fact ∈ methodFacts controller m ↔
      (∃ a ∈ reported m.annotations, routeFact controller m a = fact) ∨
        ∃ p ∈ m.parameters, ∃ a ∈ reported p.annotations, parameterFact controller m p a = fact := by
  simp only [methodFacts, List.mem_append, List.mem_map, List.mem_flatMap]

/-- All facts about a method have its key. -/
theorem key_of_mem_methodFacts {controller : String} {m : Java.Method} {fact : Fact}
    (h : fact ∈ methodFacts controller m) :
    fact.controller = controller ∧ fact.methodKey = some (methodKey controller m) := by
  rcases mem_methodFacts_iff.1 h with ⟨a, -, rfl⟩ | ⟨p, -, a, -, rfl⟩
  · simp only [routeFact]
    split <;> exact ⟨rfl, rfl⟩
  · exact ⟨rfl, rfl⟩

theorem routeFact_kind (controller : String) (m : Java.Method) (a : AnnotationUse) :
    (routeFact controller m a).kind = Site.method.kindOf a.name := by
  simp only [routeFact]
  split <;> rfl

theorem isComplete_of_mem_methodFacts {controller : String} {m : Java.Method} {fact : Fact}
    (hnames : m.HasNames) (h : fact ∈ methodFacts controller m)
    (habout : fact.isAboutMethod = true) : fact.IsComplete := by
  rw [Fact.isAboutMethod_iff] at habout
  rcases mem_methodFacts_iff.1 h with ⟨a, -, rfl⟩ | ⟨p, hp, a, -, rfl⟩
  · have hkind := routeFact_kind controller m a
    have hknown : Site.method.kindOf a.name ≠ .unknown := hkind ▸ habout.2
    have hparameter : (routeFact controller m a).isParameter = false := by
      rw [Fact.isParameter, hkind, Site.not_allows_kindOf (by decide)]
    have hkey : (routeFact controller m a).methodKey = some (methodKey controller m) := by
      simp [routeFact, hknown]
    have hname : (routeFact controller m a).methodName = some m.name := by
      simp [routeFact, hknown]
    have htype : (routeFact controller m a).typeText = some m.returnType := by
      simp [routeFact, hknown]
    exact ⟨hkey ▸ Option.some_ne_none _, ⟨m.name, hname, hnames.name⟩,
      htype ▸ Option.some_ne_none _, fun h ↦ absurd h (Bool.eq_false_iff.1 hparameter)⟩
  · exact ⟨Option.some_ne_none _, ⟨m.name, rfl, hnames.name⟩, Option.some_ne_none _,
      fun _ ↦ ⟨hnames.parameters p hp, rfl⟩⟩

section Members

variable {packageName : String} {imports : List String} {fact : Fact}

mutual

theorem exists_method_of_mem_memberFacts {outer : String} {member : Member}
    (h : fact ∈ memberFacts packageName imports outer member)
    (habout : fact.isAboutMethod = true) :
    ∃ x ∈ member.methods outer, fact ∈ methodFacts x.1 x.2 := by
  cases member with
  | method m =>
    rw [memberFacts] at h
    rw [Member.methods]
    exact ⟨(outer, m), List.mem_singleton_self _, h⟩
  | type annotations name members =>
    rw [memberFacts, List.mem_append] at h
    rw [Member.methods]
    rcases h with h | h
    · rw [isAboutMethod_of_mem_typeFacts h] at habout
      cases habout
    · exact exists_method_of_mem_membersFacts h habout

/-- A fact about a method comes from a method of the tree. -/
theorem exists_method_of_mem_membersFacts {outer : String} {members : List Member}
    (h : fact ∈ membersFacts packageName imports outer members)
    (habout : fact.isAboutMethod = true) :
    ∃ x ∈ Member.listMethods outer members, fact ∈ methodFacts x.1 x.2 := by
  cases members with
  | nil =>
    rw [membersFacts] at h
    cases h
  | cons member members =>
    rw [membersFacts, List.mem_append] at h
    rw [Member.listMethods]
    rcases h with h | h
    · obtain ⟨x, hx, hfact⟩ := exists_method_of_mem_memberFacts h habout
      exact ⟨x, List.mem_append_left _ hx, hfact⟩
    · obtain ⟨x, hx, hfact⟩ := exists_method_of_mem_membersFacts h habout
      exact ⟨x, List.mem_append_right _ hx, hfact⟩

end

mutual

theorem mem_memberFacts_of_mem_methods {outer : String} {member : Member}
    {x : String × Java.Method} (hx : x ∈ member.methods outer)
    (h : fact ∈ methodFacts x.1 x.2) : fact ∈ memberFacts packageName imports outer member := by
  cases member with
  | method m =>
    rw [Member.methods, List.mem_singleton] at hx
    rw [memberFacts]
    rwa [hx] at h
  | type annotations name members =>
    rw [Member.methods] at hx
    rw [memberFacts]
    exact List.mem_append_right _ (mem_membersFacts_of_mem_listMethods hx h)

/-- All facts of the methods of the tree are reported. -/
theorem mem_membersFacts_of_mem_listMethods {outer : String} {members : List Member}
    {x : String × Java.Method} (hx : x ∈ Member.listMethods outer members)
    (h : fact ∈ methodFacts x.1 x.2) : fact ∈ membersFacts packageName imports outer members := by
  cases members with
  | nil =>
    rw [Member.listMethods] at hx
    cases hx
  | cons member members =>
    rw [Member.listMethods, List.mem_append] at hx
    rw [membersFacts, List.mem_append]
    rcases hx with hx | hx
    · exact .inl (mem_memberFacts_of_mem_methods hx h)
    · exact .inr (mem_membersFacts_of_mem_listMethods hx h)

end

end Members

section Sources

variable {sources : List String} {fact : Fact}

theorem exists_declaredMethod_of_mem_scan (h : fact ∈ sources.flatMap scan)
    (habout : fact.isAboutMethod = true) :
    ∃ x ∈ sources.flatMap declaredMethods, fact ∈ methodFacts x.1 x.2 := by
  obtain ⟨source, hsource, h⟩ := List.mem_flatMap.1 h
  obtain ⟨x, hx, hfact⟩ := exists_method_of_mem_membersFacts h habout
  exact ⟨x, List.mem_flatMap.2 ⟨source, hsource, hx⟩, hfact⟩

theorem mem_scan_of_mem_declaredMethods {x : String × Java.Method}
    (hx : x ∈ sources.flatMap declaredMethods) (h : fact ∈ methodFacts x.1 x.2) :
    fact ∈ sources.flatMap scan := by
  obtain ⟨source, hsource, hx⟩ := List.mem_flatMap.1 hx
  exact List.mem_flatMap.2 ⟨source, hsource, mem_membersFacts_of_mem_listMethods hx h⟩

/-- Whatever the sources are, a fact about a method is complete. -/
theorem isComplete_of_mem_scan (h : fact ∈ sources.flatMap scan)
    (habout : fact.isAboutMethod = true) : fact.IsComplete := by
  obtain ⟨x, hx, hfact⟩ := exists_declaredMethod_of_mem_scan h habout
  obtain ⟨source, -, hx⟩ := List.mem_flatMap.1 hx
  exact isComplete_of_mem_methodFacts (hasNames_of_mem_declaredMethods hx) hfact habout

end Sources

end EndpointStubs
