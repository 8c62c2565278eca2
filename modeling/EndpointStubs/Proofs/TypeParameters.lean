import EndpointStubs.Proofs.LiteralPaths
import EndpointStubs.Proofs.MethodKeys

/-!
# Methods with type parameters

The return type that is reported of a method with type parameters. The section
of the type parameters is passed over up to its first closing bracket. So the
type is reported as if there were no section if no bound in it has type
arguments, and otherwise the end of the section is reported as a part of the
type. The methods are those that are read at all, with a blank before the name;
annotations with arguments do not occur in the sections considered here.
-/

namespace EndpointStubs

namespace Text

/-- What is recorded of a type does not depend on the blanks before it. -/
theorem trimStart_collapseBlanks_trimStart (text : List Char) :
    trimStart (collapseBlanks (trimStart text)) = trimStart (collapseBlanks text) := by
  have hspace : isBlank ' ' = true := by decide
  induction text with
  | nil => rfl
  | cons c text ih =>
    by_cases hc : isBlank c = true
    · have hcons : trimStart (c :: text) = trimStart text := List.dropWhile_cons_of_pos hc
      rw [hcons, ih]
      cases text with
      | nil =>
        rw [collapseBlanks, collapseBlanks, if_pos hc, trimStart, trimStart,
          List.dropWhile_cons_of_pos hspace]
      | cons d text =>
        rw [collapseBlanks.eq_def (c :: d :: text)]
        dsimp only
        rw [if_pos hc]
        split
        · rfl
        · rw [trimStart, trimStart, List.dropWhile_cons_of_pos hspace]
    · have hcons : trimStart (c :: text) = c :: text := List.dropWhile_cons_of_neg hc
      rw [hcons]

theorem compact_trimStart (text : List Char) : compact (trimStart text) = compact text := by
  rw [compact, trim, trimStart_collapseBlanks_trimStart, compact, trim]

end Text

namespace Java.Written

/-- A section of type parameters: what stands in its brackets, and the blanks behind it. -/
structure TypeParameters where
  inside : List Char
  gap : Gap
  angles : Closed '<' '>' 0 (plain inside)
  unbracketed : Unbracketed (plain inside)
  noAssignment : '=' ∉ inside

namespace TypeParameters

def chars (p : TypeParameters) : List Char :=
  '<' :: (p.inside ++ '>' :: p.gap.chars)

/-- What follows the first closing bracket. -/
def rest (p : TypeParameters) : List Char :=
  ((p.inside ++ '>' :: p.gap.chars).dropWhile (· != '>')).tail

theorem dropWhile_append (p : TypeParameters) (text : List Char) :
    (p.inside ++ '>' :: p.gap.chars ++ text).dropWhile (· != '>') = '>' :: (p.rest ++ text) := by
  have hdrop := Text.dropWhile_ne_of_mem
    (List.mem_append_right p.inside (List.mem_cons_self (a := '>') (l := p.gap.chars)))
  rw [List.dropWhile_append, hdrop]
  rfl

theorem rest_of_not_mem {p : TypeParameters} (h : '>' ∉ p.inside) : p.rest = p.gap.chars := by
  have hinside : ∀ c ∈ p.inside, (c != '>') = true := fun c hc ↦ by
    rw [bne_iff_ne]
    rintro rfl
    exact h hc
  rw [rest, List.dropWhile_append_of_pos hinside]
  rfl

/-- If a bound has type arguments, the last closing bracket is not the first. -/
theorem mem_rest {p : TypeParameters} (h : '>' ∈ p.inside) : '>' ∈ p.rest := by
  rw [rest, Text.dropWhile_append_cons (by decide), Text.dropWhile_ne_of_mem h, List.cons_append,
    List.tail_cons]
  exact List.mem_append_right _ List.mem_cons_self

theorem rest_suffix (p : TypeParameters) : p.rest <:+ p.chars :=
  (List.tail_suffix _).trans ((List.dropWhile_suffix _).trans (List.suffix_cons _ _))

theorem unbracketed_chars (p : TypeParameters) : Unbracketed (plain p.chars) := by
  have hchars : plain p.chars =
      plain ['<'] ++ (plain p.inside ++ (plain ['>'] ++ plain p.gap.chars)) := by
    simp [chars, plain]
  have hopening : Unbracketed (plain ['<']) := by decide
  have hclosing : Unbracketed (plain ['>']) := by decide
  have hgap := unbracketed_plain (by decide) p.gap.blank
  rw [hchars]
  exact List.forall_mem_append.2 ⟨hopening, List.forall_mem_append.2 ⟨p.unbracketed,
    List.forall_mem_append.2 ⟨hclosing, hgap⟩⟩⟩

theorem not_mem_chars (p : TypeParameters) : '=' ∉ p.chars := by
  have hgap : '=' ∉ p.gap.chars := fun hmem ↦ absurd (p.gap.blank _ hmem) (by decide)
  simp [chars, p.noAssignment, hgap]

end TypeParameters

/-- A declaration may start with a section of type parameters. -/
theorem startsDeclaration_angle (rest : List Char) : StartsDeclaration (plain ('<' :: rest)) := by
  have hmodifier : (plain ('<' :: rest)).takeWhile (Lexeme.is isModifierChar) = [] := rfl
  refine ⟨⟨?_, ?_⟩, nofun⟩
  · rintro l ⟨⟩
    decide
  · rw [hmodifier]
    decide

theorem EndsType.append {type : List Char} {gap : Gap} (h : EndsType type gap)
    (before : List Char) : EndsType (before ++ type) gap := by
  obtain ⟨c, hc, hends⟩ := h
  refine ⟨c, ?_, hends⟩
  rw [List.getLast?_append, hc, Option.some_or]
  exact Option.mem_some_self c

/-- Where a head follows the section, it is the one that is read. -/
theorem methodHead?_of_typedHead? {inside rest : List Char} {head : MethodHead}
    (hrest : inside.dropWhile (· != '>') = '>' :: rest)
    (h : typedHead? (Text.trimStart rest) = some head) :
    methodHead? ('<' :: inside) = some head := by
  rw [methodHead?]
  split
  · rename_i heq
    rw [hrest] at heq
    cases heq
    rw [h]
    rfl
  · rename_i hne
    exact absurd hrest (hne rest)

namespace MethodForm

variable (m : MethodForm) (p : TypeParameters)

/-- The method with a section of type parameters before its return type. -/
def withTypeParameters : MethodForm :=
  { m with
    head := p.chars ++ m.head
    starts := startsDeclaration_angle _
    notType := by
      have hword : firstWord (p.chars ++ m.head ++ m.gap.chars ++ m.name.chars) = "" := rfl
      rw [hword]
      decide
    ends := m.ends.append p.chars
    head_unbracketed := by
      rw [plain_append]
      exact List.forall_mem_append.2 ⟨p.unbracketed_chars, m.head_unbracketed⟩
    noAssignment := fun hmem ↦ (List.mem_append.1 hmem).elim p.not_mem_chars m.noAssignment
    section_closed := fun _ ↦ by simp [TypeParameters.chars] }

/-- The return type begins with a character that is not blank. -/
theorem isBlank_head : ∀ c ∈ m.head.head?, Text.isBlank c = false := by
  intro c hc
  obtain ⟨rest, hhead⟩ := List.head?_eq_some_iff.1 hc
  have hbegins := m.starts.1.1 (.char c)
  rw [hhead] at hbegins
  exact (hbegins rfl).1

variable {m p}

/-- The type that is read starts behind the first closing bracket of the section. -/
theorem methodHead?_withTypeParameters (hgap : m.gap.chars ≠ []) :
    methodHead? (flatten (m.withTypeParameters p).declaration) =
      some ⟨.ofList (Text.compact (p.rest ++ m.head)), m.name.text, flatten m.list⟩ := by
  let before := Text.trimStart p.rest
  have hbefore : ∀ c ∈ before ++ m.head ++ m.gap.chars ++ m.name.chars ++ m.nameGap.chars,
      isBeforeParameters c = true := by
    have hsection : before ⊆ p.chars :=
      ((List.dropWhile_suffix _).trans p.rest_suffix).subset
    have hhead := (m.withTypeParameters p).isBeforeParameters_head
    simp only [withTypeParameters, List.forall_mem_append] at hhead
    simp only [List.forall_mem_append]
    exact ⟨⟨⟨⟨fun c hc ↦ hhead.1.1 c (hsection hc), hhead.1.2⟩, hhead.2⟩,
      fun c hc ↦ isBeforeParameters_of_word (m.name.word c hc)⟩,
      fun c hc ↦ isBeforeParameters_of_blank (m.nameGap.blank c hc)⟩
  have htyped := typedHead?_signature (m.ends.append before) hbefore (flatten m.list)
  have htrim : Text.trimStart (p.rest ++ m.head) = before ++ m.head :=
    Text.trimStart_append p.rest m.isBlank_head
  rw [if_neg hgap, ← htrim, Text.compact_trimStart] at htyped
  have hsplit : flatten (m.withTypeParameters p).declaration =
      '<' :: (p.inside ++ '>' :: p.gap.chars ++ (m.head ++ (m.gap.chars ++ m.fromName))) := by
    rw [flatten_declaration]
    simp [withTypeParameters, TypeParameters.chars, fromName, list]
  have hread : Text.trimStart (p.rest ++ (m.head ++ (m.gap.chars ++ m.fromName))) =
      Text.trimStart (p.rest ++ m.head) ++ m.gap.chars ++ m.name.chars ++ m.nameGap.chars ++
        '(' :: flatten m.list := by
    have hhead : ∀ c ∈ (m.head ++ (m.gap.chars ++ m.fromName)).head?, Text.isBlank c = false := by
      rw [List.head?_append_of_ne_nil _ m.head_ne_nil]
      exact m.isBlank_head
    rw [Text.trimStart_append p.rest hhead, htrim, fromName]
    simp only [before, List.append_assoc]
  rw [← hread] at htyped
  rw [hsplit]
  exact methodHead?_of_typedHead? (p.dropWhile_append _) htyped

/-- Without a section, the return type is read as it is written. -/
theorem methodHead?_of_no_section (hsection : m.head.head? ≠ some '<') (hgap : m.gap.chars ≠ []) :
    methodHead? (flatten m.declaration) =
      some ⟨.ofList (Text.compact m.head), m.name.text, flatten m.list⟩ := by
  have hbefore : ∀ c ∈ m.head ++ m.gap.chars ++ m.name.chars ++ m.nameGap.chars,
      isBeforeParameters c = true := by
    refine List.forall_mem_append.2 ⟨List.forall_mem_append.2 ⟨m.isBeforeParameters_head, ?_⟩, ?_⟩
    · exact fun c hc ↦ isBeforeParameters_of_word (m.name.word c hc)
    · exact fun c hc ↦ isBeforeParameters_of_blank (m.nameGap.blank c hc)
  have htyped := typedHead?_signature m.ends hbefore (flatten m.list)
  rw [if_neg hgap, List.append_assoc _ m.nameGap.chars, List.append_assoc _ m.name.chars,
    ← List.append_assoc m.name.chars, ← fromName, ← flatten_declaration] at htyped
  rw [methodHead?_eq_typedHead?, htyped]
  rwa [flatten_declaration, List.append_assoc, List.head?_append_of_ne_nil _ m.head_ne_nil]

end MethodForm

theorem typeText_of_isRoute {controller : String} {m : Java.Method} {fact : Fact}
    (h : fact ∈ methodFacts controller m) (hroute : fact.isRoute = true) :
    fact.typeText = some m.returnType := by
  obtain ⟨a, ha, rfl⟩ := exists_mapping_of_isRoute h hroute
  rw [routeFact_eq (List.mem_filter.1 ha).2]

namespace PlacedMethod

variable {x : PlacedMethod} {head : MethodHead}

/-- The routes of a method that is read have its return type, and every mapping annotation gives
one. -/
theorem routes_of_methodHead? (h : methodHead? (flatten x.method.declaration) = some head)
    (packageName : String) :
    (∀ fact ∈ x.facts packageName, fact.isRoute = true → fact.typeText = some head.returnType) ∧
      ∀ a ∈ x.method.front.annotations, a.isMapping = true →
        ∃ fact ∈ x.facts packageName, fact.isRoute = true := by
  have hread : x.method.read? = some ⟨x.method.front.annotations, head.returnType,
      x.method.name.text, x.method.formals.filterMap Formal.read?⟩ := by
    rw [MethodForm.read?, h, Option.map_some]
  rw [facts, hread, Option.elim_some]
  refine ⟨fun fact hfact hroute ↦ typeText_of_isRoute hfact hroute, fun a ha hmapping ↦ ?_⟩
  exact ⟨_, routeFact_mem_methodFacts (List.mem_filter.2 ⟨ha, hmapping⟩),
    isRoute_routeFact.2 hmapping⟩

end PlacedMethod

/-- A method with type parameters, anywhere in the types of a source, with a blank before its name:
each mapping annotation is reported with what follows the first closing bracket of the section as
the type. This is the return type, as it is reported without a section, if and only if no bound in
the section has type arguments. -/
theorem type_of_method_with_type_parameters (u : CompilationUnit) (layout : Layout u.lexemes)
    {x : PlacedMethod} (hx : x ∈ u.methods) {m : MethodForm} {p : TypeParameters}
    (hmethod : x.method = m.withTypeParameters p) (hsection : m.head.head? ≠ some '<')
    (hgap : m.gap.chars ≠ []) (hseparated : Formal.Separated m.formals)
    (hmapping : ∃ a ∈ m.front.annotations, a.isMapping = true) :
    (∀ fact ∈ x.facts u.packageName, fact ∈ scan (.ofList layout.text)) ∧
      (∃ fact ∈ x.facts u.packageName, fact.isRoute = true) ∧
      (∀ fact ∈ x.facts u.packageName, fact.isRoute = true →
        fact.typeText = some (.ofList (Text.compact (p.rest ++ m.head)))) ∧
      (∀ fact ∈ PlacedMethod.facts ⟨x.types, m⟩ u.packageName, fact.isRoute = true →
        fact.typeText = some (.ofList (Text.compact m.head))) ∧
      ((∀ fact ∈ x.facts u.packageName, fact.isRoute = true →
          fact.typeText = some (.ofList (Text.compact m.head))) ↔ '>' ∉ p.inside) := by
  obtain ⟨types, method⟩ := x
  obtain rfl : method = m.withTypeParameters p := hmethod
  obtain ⟨a, ha, hmapping⟩ := hmapping
  obtain ⟨htypes, hroutes⟩ := PlacedMethod.routes_of_methodHead?
    (x := ⟨types, m.withTypeParameters p⟩) (MethodForm.methodHead?_withTypeParameters hgap)
    u.packageName
  obtain ⟨hplain, -⟩ := PlacedMethod.routes_of_methodHead?
    (x := ⟨types, m⟩) (MethodForm.methodHead?_of_no_section hsection hgap) u.packageName
  obtain ⟨route, hroute, hisRoute⟩ := hroutes a ha hmapping
  refine ⟨mem_scan_of_mem_facts layout hx hseparated, ⟨route, hroute, hisRoute⟩, htypes, hplain,
    ?_, ?_⟩
  · intro h hmem
    have hcompact := (h route hroute hisRoute).symm.trans (htypes route hroute hisRoute)
    rw [Option.some.injEq, String.ofList_inj] at hcompact
    have hblanks := congrArg Text.removeBlanks hcompact
    rw [Text.removeBlanks_compact, Text.removeBlanks_compact, Text.removeBlanks_append,
      List.self_eq_append_left] at hblanks
    have hleft : '>' ∈ Text.removeBlanks p.rest :=
      List.mem_filter.2 ⟨TypeParameters.mem_rest hmem, by decide⟩
    rw [hblanks] at hleft
    cases hleft
  · intro h fact hfact hisRoute
    rw [htypes fact hfact hisRoute, TypeParameters.rest_of_not_mem h, ← Text.compact_trimStart,
      Text.trimStart_append_stop p.gap.blank m.isBlank_head]

namespace Sample

/-- `T[] find()` -/
def variableMethod : MethodForm :=
  { overload "\"/a\"".toList [] with
    head := "T[]".toList
    starts := by decide
    notType := by decide
    ends := ⟨']', rfl, by decide, fun hgap ↦ absurd hgap (by decide)⟩
    head_unbracketed := by decide
    noAssignment := by decide
    section_closed := fun hsection ↦ absurd hsection (by decide) }

/-- `<T extends Comparable<T>>` -/
def comparable : TypeParameters where
  inside := "T extends Comparable<T>".toList
  gap := space
  angles := by decide
  unbracketed := by decide
  noAssignment := by decide

def comparableMethod : PlacedMethod :=
  ⟨["A"], variableMethod.withTypeParameters comparable⟩

def comparableUnit : CompilationUnit where
  declarations := [.type ⟨(controller []).head, none⟩ [.method comparableMethod.method]
    ⟨[], balanced_nil⟩]
  trail := ⟨[], balanced_nil⟩

def comparableLayout : Layout comparableUnit.lexemes where
  passages := passages ("@RestController class A \x7b @PostMapping(\"/a\")/* any type */" ++
    "<T extends Comparable<T>> T[] find();\x7d").toList
  apart := by decide +kernel
  lexemes_eq := by decide +kernel

end Sample

/-- The section `<T extends Comparable<T>>` ends too early, so that the type `T[]` is read as
`> T[]`. -/
theorem type_of_method_with_bound :
    '>' ∈ Sample.comparable.inside ∧
      (∃ fact ∈ scan (.ofList Sample.comparableLayout.text), fact.typeText = some "> T[]") ∧
      ¬∀ fact ∈ Sample.comparableMethod.facts "", fact.isRoute = true →
        fact.typeText = some "T[]" := by
  have hmem : Sample.comparableMethod ∈ Sample.comparableUnit.methods := by
    have hmethods : Sample.comparableUnit.methods = [Sample.comparableMethod] := rfl
    rw [hmethods]
    exact List.mem_cons_self
  have hpackage : Sample.comparableUnit.packageName = "" := by decide +kernel
  have htype := type_of_method_with_type_parameters Sample.comparableUnit Sample.comparableLayout
    hmem (m := Sample.variableMethod) (p := Sample.comparable) rfl (by decide) (by decide)
    (by decide) (by decide)
  rw [hpackage] at htype
  obtain ⟨hscan, ⟨fact, hfact, hroute⟩, htypes, -, hiff⟩ := htype
  have hbound : '>' ∈ Sample.comparable.inside := by decide
  exact ⟨hbound, ⟨fact, hscan fact hfact, htypes fact hfact hroute⟩, fun h ↦ hiff.1 h hbound⟩

/-- The two methods differ in the section of type parameters only. -/
theorem type_of_method_cut_at_bound :
    (scan ("@RestController class A \x7b @GetMapping(\"/a\") " ++
        "<T extends Comparable<T>> T f() \x7b return null; \x7d \x7d")).map Fact.typeText =
          [none, some "> T"] ∧
      (scan ("@RestController class A \x7b @GetMapping(\"/a\") " ++
        "T f() \x7b return null; \x7d \x7d")).map Fact.typeText = [none, some "T"] := by
  decide +kernel

end Java.Written

end EndpointStubs
