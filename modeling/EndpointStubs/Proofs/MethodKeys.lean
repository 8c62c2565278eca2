import EndpointStubs.Proofs.ClassFiles
import EndpointStubs.Proofs.DeclarationTree

/-!
# The keys of methods

The key of a method is a text, but its parts are found in it again: the names of
the types around the method, its own name, and the types that were read of its
parameters. So methods that differ in one of these have different keys, and no
endpoint is described by the facts about both. What is read of a parameter list
is what is declared, but for two ways of writing it: a parameter with brackets
behind its name is not seen, and the receiver is taken for a parameter. Types are
compared as they are written: type variables of one name are one type here,
whatever their bounds.
-/

namespace EndpointStubs.Java.Written

namespace MethodForm

/-- The types of the parameters that are read. -/
def seenTypes (m : MethodForm) : List (List TypeToken) :=
  (m.formals.filter (·.brackets = [])).map (·.type.tokens)

/-- The declared types of the parameters. -/
def parameterTypes (m : MethodForm) : List (List TypeToken) :=
  (m.formals.filter (!·.isReceiver)).map Formal.declaredType

/-- No brackets stand behind the name of a parameter, and the receiver is not written. -/
def IsPlain (m : MethodForm) : Prop :=
  ∀ p ∈ m.formals, p.brackets = [] ∧ p.isReceiver = false

instance (m : MethodForm) : Decidable m.IsPlain :=
  inferInstanceAs (Decidable (∀ p ∈ m.formals, _))

variable {m : MethodForm}

theorem seenTypes_of_isPlain (h : m.IsPlain) : m.seenTypes = m.parameterTypes := by
  have hseen : m.formals.filter (·.brackets = []) = m.formals :=
    List.filter_eq_self.2 fun p hp ↦ decide_eq_true (h p hp).1
  have hdeclared : m.formals.filter (!·.isReceiver) = m.formals :=
    List.filter_eq_self.2 fun p hp ↦ by rw [(h p hp).2]; rfl
  rw [seenTypes, parameterTypes, hseen, hdeclared]
  refine List.map_congr_left fun p hp ↦ ?_
  rw [Formal.declaredType, (h p hp).1, List.flatMap_nil, List.append_nil]

theorem isType_of_mem_seenTypes : ∀ ts ∈ m.seenTypes, ts ≠ [] ∧ IsType ts := by
  intro ts hts
  obtain ⟨p, -, rfl⟩ := List.mem_map.1 hts
  exact ⟨List.append_ne_nil_of_right_ne_nil _ (List.cons_ne_nil _ _), p.isType⟩

end MethodForm

theorem Formal.removeBlanks_type (p : Formal) :
    Text.removeBlanks p.unbracketed.parameter.type.toList = TypeToken.text p.type.tokens := by
  have htype : p.unbracketed.parameter.type = .ofList (Text.compact p.type.chars) := by
    rw [Parameter.parameter, unbracketed, flatten_plain]
  rw [htype, String.toList_ofList, Text.removeBlanks_compact, TypeForm.removeBlanks_chars p.isType]

theorem MethodForm.map_type_parameters (m : MethodForm) :
    ((m.formals.filterMap Formal.read?).map fun p ↦ Text.removeBlanks p.type.toList) =
      m.seenTypes.map TypeToken.text := by
  rw [seenTypes]
  generalize m.formals = formals
  induction formals with
  | nil => rfl
  | cons p formals ih =>
    by_cases hbrackets : p.brackets = []
    · have hread : p.read? = some p.unbracketed.parameter := if_pos hbrackets
      rw [List.filterMap_cons_some hread, List.map_cons, ih, p.removeBlanks_type, List.filter_cons,
        if_pos (decide_eq_true hbrackets), List.map_cons, List.map_cons]
    · have hread : p.read? = none := if_neg hbrackets
      rw [List.filterMap_cons_none hread, ih, List.filter_cons,
        if_neg (by rwa [decide_eq_true_eq])]

/-- The text of a key, with the types that were read. -/
theorem toList_methodKey (controller : String) {form : MethodForm} {m : Java.Method}
    (h : form.read? = some m) :
    (methodKey controller m).toList = (controller.toList ++ '.' :: form.name.chars) ++
      '(' :: ([','].intercalate (form.seenTypes.map TypeToken.text) ++ [')']) := by
  obtain ⟨head, -, rfl⟩ := Option.map_eq_some_iff.1 h
  have htypes := form.map_type_parameters
  simp only [methodKey, String.toList_append, String.toList_intercalate, List.map_map,
    Function.comp_def, String.toList_ofList, htypes]
  simp [Identifier.text]

namespace PlacedMethod

/-- The type that the method is declared in. -/
def declaringType (x : PlacedMethod) (packageName : String) : DeclaredType :=
  ⟨packageName, x.types, []⟩

/-- What is reported for the method. -/
def facts (x : PlacedMethod) (packageName : String) : List Fact :=
  x.method.read?.elim [] (methodFacts (x.declaringType packageName).qualifiedName)

variable {d e : PlacedMethod} {packageName : String}

section Names

variable (hd : (d.declaringType packageName).HasNames)
include hd

theorem toList_qualifiedMethodName :
    (d.declaringType packageName).qualifiedName.toList ++ '.' :: d.method.name.chars =
      ['.'].intercalate
        ((packageSegments packageName ++ d.types).map String.toList ++ [d.method.name.chars]) := by
  have hne : (packageSegments packageName ++ d.types).map String.toList ≠ [] := by
    rw [ne_eq, List.map_eq_nil_iff]
    exact List.append_ne_nil_of_right_ne_nil _ hd.names_ne_nil
  rw [hd.toList_qualifiedName, intercalate_append hne (List.cons_ne_nil _ _),
    List.intercalate_singleton]
  rfl

/-- The pieces of the qualified name are words without dots. -/
theorem isWord_pieces :
    ∀ piece ∈ (packageSegments packageName ++ d.types).map String.toList ++ [d.method.name.chars],
      ∀ c ∈ piece, Text.isWord c = true := by
  intro piece hpiece c hc
  rw [List.map_append, List.mem_append, List.mem_append, List.mem_map, List.mem_map,
    List.mem_singleton] at hpiece
  rcases hpiece with (⟨segment, hsegment, rfl⟩ | ⟨name, hname, rfl⟩) | rfl
  · obtain ⟨hmem, hdot⟩ := mem_of_mem_packageSegments hsegment c hc
    have hor := hd.packageName c hmem
    rw [Text.isWordOrDot, Bool.or_eq_true, beq_iff_eq] at hor
    exact hor.resolve_right hdot
  · exact (hd.names name hname).2 c hc
  · exact d.method.name.word c hc

theorem splitAt_qualifiedMethodName :
    Text.splitAt '.'
        ((d.declaringType packageName).qualifiedName.toList ++ '.' :: d.method.name.chars) =
      (packageSegments packageName ++ d.types).map String.toList ++ [d.method.name.chars] := by
  rw [toList_qualifiedMethodName hd]
  refine splitAt_intercalate (fun piece hpiece hdot ↦ ?_)
    (List.append_ne_nil_of_right_ne_nil _ (List.cons_ne_nil _ _))
  exact absurd (isWord_pieces hd piece hpiece '.' hdot) (by decide)

/-- No parenthesis stands before the one that opens the list of types. -/
theorem ne_parenthesis_qualifiedMethodName :
    ∀ c ∈ (d.declaringType packageName).qualifiedName.toList ++ '.' :: d.method.name.chars,
      (c != '(') = true := by
  have hpieces : ∀ piece ∈ (packageSegments packageName ++ d.types).map String.toList ++
      [d.method.name.chars], ∀ c ∈ piece, (c != '(') = true := by
    intro piece hpiece c hc
    rw [bne_iff_ne]
    rintro rfl
    exact absurd (isWord_pieces hd piece hpiece '(' hc) (by decide)
  rw [toList_qualifiedMethodName hd]
  refine forall_mem_intercalate (fun c hc ↦ ?_) hpieces
  rw [List.mem_singleton.1 hc]
  decide

end Names

/-- The parts of a key are found in it again. -/
theorem methodKey_eq_iff (hd : (d.declaringType packageName).HasNames)
    (he : (e.declaringType packageName).HasNames) {m n : Java.Method}
    (hm : d.method.read? = some m) (hn : e.method.read? = some n) :
    methodKey (d.declaringType packageName).qualifiedName m =
        methodKey (e.declaringType packageName).qualifiedName n ↔
      d.types = e.types ∧ d.method.name.chars = e.method.name.chars ∧
        d.method.seenTypes = e.method.seenTypes := by
  rw [← String.toList_inj, toList_methodKey _ hm, toList_methodKey _ hn]
  constructor
  · intro h
    have hstop (rest : List Char) : ∀ c ∈ ('(' :: rest).head?, (c != '(') = false := by
      intro c hc
      cases hc
      rfl
    -- What stands before the first parenthesis is the qualified name of the method.
    have hname := congrArg (List.takeWhile (· != '(')) h
    rw [Text.takeWhile_append_stop (ne_parenthesis_qualifiedMethodName hd) (hstop _),
      Text.takeWhile_append_stop (ne_parenthesis_qualifiedMethodName he) (hstop _)] at hname
    have hlist := List.append_cancel_left (hname ▸ h)
    have htypes := List.append_cancel_right (List.cons.inj hlist).2
    have hpieces := congrArg (Text.splitAt '.') hname
    rw [splitAt_qualifiedMethodName hd, splitAt_qualifiedMethodName he,
      List.append_singleton_inj, List.map_inj_right fun _ _ ↦ String.toList_inj.1] at hpieces
    exact ⟨List.append_cancel_left hpieces.1, hpieces.2,
      eq_of_intercalate_text_eq MethodForm.isType_of_mem_seenTypes
        MethodForm.isType_of_mem_seenTypes htypes⟩
  · rintro ⟨htypes, hname, hseen⟩
    rw [declaringType, declaringType, htypes, hname, hseen]

theorem exists_read_of_mem_facts {fact : Fact} (h : fact ∈ d.facts packageName) :
    ∃ m, d.method.read? = some m ∧
      fact ∈ methodFacts (d.declaringType packageName).qualifiedName m := by
  rw [facts] at h
  cases hread : d.method.read? with
  | none =>
    rw [hread] at h
    cases h
  | some m =>
    rw [hread] at h
    exact ⟨m, rfl, h⟩

end PlacedMethod

/-! ## Overloads -/

namespace Sample

/-- A parameter without annotations. -/
def formal (lead : Gap) (type : TypeForm) (name : Identifier) (brackets : List (Gap × Gap))
    (isType : IsType type.tokens)
    (starts : StartsDeclaration (plain type.chars ++ plain (' ' :: name.chars)))
    (ends : EndsType type.chars space) : Formal where
  front := frontOf lead []
  type := type
  gap := space
  name := name
  trail := noGap
  brackets := brackets
  isType := isType
  starts := starts
  ends := ends

theorem closed_literal (opener closer : Char) (text : List Char) :
    Closed opener closer 0 [.literal text] :=
  closed_of_forall_ne fun l hl ↦ by
    rw [List.mem_singleton.1 hl]
    exact ⟨nofun, nofun⟩

/-- A method `find` without a result that is mapped to the path of a literal. -/
def overload (path : List Char) (formals : List Formal) : MethodForm where
  front := frontOf space [useOf (identifier "PostMapping" (by decide) (by decide)) (by decide)
    (some ⟨[.literal path], closed_literal _ _ path, closed_literal _ _ path⟩)]
  head := "void".toList
  gap := space
  name := identifier "find" (by decide) (by decide)
  nameGap := noGap
  blanks := noGap
  formals := formals
  tail := []
  block := none
  starts := by decide
  notType := by decide
  ends := ⟨'d', rfl, by decide, fun hgap ↦ absurd hgap (by decide)⟩
  head_unbracketed := by decide
  noAssignment := by decide
  section_closed := fun hsection ↦ absurd hsection (by decide)
  tail_balanced := balanced_nil

/-- A controller `A` with two overloads of the method. -/
def overloads (first second : List Formal) : CompilationUnit where
  declarations :=
    [.type ⟨(controller []).head, none⟩
      [.method (overload "\"/a\"".toList first), .method (overload "\"/b\"".toList second)]
      ⟨[], balanced_nil⟩]
  trail := ⟨[], balanced_nil⟩

def word (chars : String) : TypeToken :=
  .word chars.toList

/-- `Map<String, T[]> x` -/
def arrayMap : Formal :=
  formal noGap
    ⟨[(word "Map", noGap), (.mark '<', noGap), (word "String", noGap), (.mark ',', space),
      (word "T", noGap), (.mark '[', noGap), (.mark ']', noGap)], .mark '>'⟩
    x [] (by decide) (by decide)
    ⟨'>', rfl, by decide, fun hgap ↦ absurd hgap (by decide)⟩

/-- `Map<String, ? super T> x` -/
def boundedMap : Formal :=
  formal noGap
    ⟨[(word "Map", noGap), (.mark '<', noGap), (word "String", noGap), (.mark ',', space),
      (.mark '?', space), (word "super", space), (word "T", noGap)], .mark '>'⟩
    x [] (by decide) (by decide)
    ⟨'>', rfl, by decide, fun hgap ↦ absurd hgap (by decide)⟩

/-- `int... y` -/
def integers : Formal :=
  formal space ⟨[(word "int", noGap), (.mark '.', noGap), (.mark '.', noGap)], .mark '.'⟩
    y [] (by decide) (by decide)
    ⟨'.', rfl, by decide, fun hgap ↦ absurd hgap (by decide)⟩

/-- `int x[]` -/
def bracketed : Formal :=
  formal noGap ⟨[], word "int"⟩ x [(noGap, noGap)] (by decide) (by decide)
    ⟨'t', rfl, by decide, fun hgap ↦ absurd hgap (by decide)⟩

/-- A parameter of the type `A`, or the receiver. -/
def ofTypeA (name : Identifier)
    (starts : StartsDeclaration (plain ['A'] ++ plain (' ' :: name.chars))) : Formal :=
  formal noGap ⟨[], word "A"⟩ name [] (by decide) starts
    ⟨'A', rfl, by decide, fun hgap ↦ absurd hgap (by decide)⟩

def mapUnit : CompilationUnit :=
  overloads [arrayMap, integers] [boundedMap]

def mapLayout : Layout mapUnit.lexemes where
  passages := passages ("@RestController class A \x7b @PostMapping(\"/a\") " ++
    "void find(Map<String, T[]> x,/* any number */int... y); @PostMapping(\"/b\") " ++
    "void find(Map<String, ? super T> x);\x7d").toList
  apart := by decide +kernel
  lexemes_eq := by decide +kernel

def bracketUnit : CompilationUnit :=
  overloads [bracketed] []

def bracketLayout : Layout bracketUnit.lexemes where
  passages := passages ("@RestController class A \x7b @PostMapping(\"/a\") void find(int x[]); " ++
    "@PostMapping(\"/b\") void find();\x7d").toList
  apart := by decide +kernel
  lexemes_eq := by decide +kernel

/-- In the first overload the object itself is written down as the receiver. -/
def receiverUnit : CompilationUnit :=
  overloads [ofTypeA (identifier "this" (by decide) (by decide)) (by decide)]
    [ofTypeA x (by decide)]

def arrayMethod : PlacedMethod :=
  ⟨["A"], overload "\"/a\"".toList [arrayMap, integers]⟩

def boundedMethod : PlacedMethod :=
  ⟨["A"], overload "\"/b\"".toList [boundedMap]⟩

end Sample

theorem CompilationUnit.hasNames {u : CompilationUnit} {x : PlacedMethod} (hx : x ∈ u.methods) :
    (x.declaringType u.packageName).HasNames :=
  ⟨isWordOrDot_of_packageName _, types_ne_nil hx, isName_types hx⟩

/-- What is reported for a method is reported for the source. -/
theorem mem_scan_of_mem_facts {u : CompilationUnit} (layout : Layout u.lexemes) {x : PlacedMethod}
    (hx : x ∈ u.methods) (hseparated : Formal.Separated x.method.formals) :
    ∀ fact ∈ x.facts u.packageName, fact ∈ scan (.ofList layout.text) := by
  intro fact hfact
  obtain ⟨m, hread, hfact⟩ := PlacedMethod.exists_read_of_mem_facts hfact
  exact mem_membersFacts_of_mem_listMethods
    (CompilationUnit.mem_declaredMethods hx layout hseparated hread) hfact

/-- Two methods have one key if and only if they have the same name, in the same type, and the same
types were read of their parameters. If no brackets stand behind the names of their parameters and
no receivers are written, this is so only if the same types are declared, and otherwise no endpoint
is described by facts about both. -/
theorem methodKey_tells_methods (u : CompilationUnit) (layout : Layout u.lexemes)
    {d e : PlacedMethod} (hd : d ∈ u.methods) (he : e ∈ u.methods)
    (hseparated : Formal.Separated d.method.formals ∧ Formal.Separated e.method.formals) :
    (∀ fact ∈ d.facts u.packageName ++ e.facts u.packageName, fact ∈ scan (.ofList layout.text)) ∧
      (∀ f ∈ d.facts u.packageName, ∀ g ∈ e.facts u.packageName,
        (f.methodKey = g.methodKey ↔ d.types = e.types ∧
          d.method.name.chars = e.method.name.chars ∧
          d.method.seenTypes = e.method.seenTypes)) ∧
      (d.method.IsPlain → e.method.IsPlain →
        ¬(d.types = e.types ∧ d.method.name.chars = e.method.name.chars ∧
          d.method.parameterTypes = e.method.parameterTypes) →
        ∀ f ∈ d.facts u.packageName, ∀ g ∈ e.facts u.packageName,
          f.methodKey ≠ g.methodKey ∧ ∀ controller key facts,
            f ∈ endpointFacts controller key facts → g ∉ endpointFacts controller key facts) := by
  have hkeys : ∀ f ∈ d.facts u.packageName, ∀ g ∈ e.facts u.packageName,
      (f.methodKey = g.methodKey ↔ d.types = e.types ∧
        d.method.name.chars = e.method.name.chars ∧
        d.method.seenTypes = e.method.seenTypes) := by
    intro f hf g hg
    obtain ⟨m, hm, hf⟩ := PlacedMethod.exists_read_of_mem_facts hf
    obtain ⟨n, hn, hg⟩ := PlacedMethod.exists_read_of_mem_facts hg
    rw [(key_of_mem_methodFacts hf).2, (key_of_mem_methodFacts hg).2, Option.some.injEq]
    exact PlacedMethod.methodKey_eq_iff (CompilationUnit.hasNames hd)
      (CompilationUnit.hasNames he) hm hn
  refine ⟨List.forall_mem_append.2 ⟨mem_scan_of_mem_facts layout hd hseparated.1,
    mem_scan_of_mem_facts layout he hseparated.2⟩, hkeys, fun hplain hplain' hdiffer f hf g hg ↦ ?_⟩
  have hne : f.methodKey ≠ g.methodKey := by
    rw [ne_eq, hkeys f hf g hg, MethodForm.seenTypes_of_isPlain hplain,
      MethodForm.seenTypes_of_isPlain hplain']
    exact hdiffer
  refine ⟨hne, fun controller key facts hf hg ↦ hne ?_⟩
  rw [methodKey_of_mem_endpointFacts hf, methodKey_of_mem_endpointFacts hg]

/-- Overloads with type arguments, wildcards, arrays and variable arity are told apart. -/
theorem methodKey_tells_methods_of_maps :
    (Sample.arrayMethod.facts "").map Fact.methodKey = [some "A.find(Map<String,T[]>,int...)"] ∧
      (Sample.boundedMethod.facts "").map Fact.methodKey = [some "A.find(Map<String,?superT>)"] ∧
      ∀ f ∈ Sample.arrayMethod.facts "", ∀ g ∈ Sample.boundedMethod.facts "",
        f ∈ scan (.ofList Sample.mapLayout.text) ∧ g ∈ scan (.ofList Sample.mapLayout.text) ∧
          f.methodKey ≠ g.methodKey ∧ ∀ controller key facts,
            f ∈ endpointFacts controller key facts → g ∉ endpointFacts controller key facts := by
  have hmethods : Sample.mapUnit.methods = [Sample.arrayMethod, Sample.boundedMethod] := rfl
  have hpackage : Sample.mapUnit.packageName = "" := by decide +kernel
  have htells := methodKey_tells_methods Sample.mapUnit Sample.mapLayout
    (d := Sample.arrayMethod) (e := Sample.boundedMethod)
    (by rw [hmethods]; exact List.mem_cons_self)
    (by rw [hmethods]; exact List.mem_cons_of_mem _ List.mem_cons_self)
    ⟨by decide, by decide⟩
  rw [hpackage] at htells
  obtain ⟨hreported, -, hdiffer⟩ := htells
  refine ⟨by decide +kernel, by decide +kernel, fun f hf g hg ↦
    ⟨hreported f (List.mem_append_left _ hf), hreported g (List.mem_append_right _ hg), ?_⟩⟩
  exact hdiffer (by decide) (by decide) (by decide) f hf g hg

/-- A parameter with brackets behind its name is no part of the key: two methods with different
parameters are one endpoint. -/
theorem methodKey_of_brackets_behind_name :
    Sample.bracketUnit.methods.map (·.method.parameterTypes) =
        [[[Sample.word "int", .mark '[', .mark ']']], []] ∧
      (endpointFacts "A" "A.find()" (scan (.ofList Sample.bracketLayout.text))).map Fact.value =
        [["/a"], ["/b"]] := by
  decide +kernel

/-- The receiver is part of the key as if it were a parameter. -/
theorem methodKey_of_receiver :
    Sample.receiverUnit.methods.map (·.method.parameterTypes) = [[], [[Sample.word "A"]]] ∧
      (Sample.receiverUnit.methods.flatMap (·.facts "")).map Fact.methodKey =
        [some "A.find(A)", some "A.find(A)"] := by
  decide +kernel

end EndpointStubs.Java.Written
