import EndpointStubs.Proofs.ImportReading
import EndpointStubs.Proofs.InitializerReading

/-!
# Reading sources

Whatever the layout of a source, what is reported from it are the annotations of
its types, methods and parameters, in the order in which they are written. The
members of a body are read one after the other; by induction on the tree of
declarations so are the members of its types.
-/

namespace EndpointStubs.Java.Written

theorem reportedKind?_eq (site : Site) (name : String) :
    reportedKind? site name =
      if reportedAnnotations.contains name then some (site.kindOf name) else none := by
  by_cases hname : name ∈ reportedAnnotations
  · rw [if_pos (List.contains_iff_mem.2 hname)]
    simp only [reportedAnnotations, List.mem_cons, List.not_mem_nil, or_false] at hname
    rcases hname with rfl | rfl | rfl | rfl | rfl | rfl | rfl | rfl <;> cases site <;> rfl
  · rw [if_neg (mt List.contains_iff_mem.1 hname)]
    unfold reportedKind?
    split <;> first | rfl | exact absurd (by decide) hname

theorem Front.annotations_eq (front : Front) :
    front.annotations = front.forms.map AnnotationForm.use := by
  rw [annotations, forms, List.map_filterMap]
  rfl

/-- Annotations are reported one by one. -/
theorem Front.filterMap_reportedKind? (front : Front) (site : Site)
    {build : AnnotationForm → FactKind → Fact} {fact : AnnotationUse → Fact}
    (h : ∀ a, build a (site.kindOf a.use.name) = fact a.use) :
    front.forms.filterMap (fun a ↦ (reportedKind? site a.use.name).map (build a)) =
      (reported front.annotations).map fact := by
  rw [front.annotations_eq, reported]
  induction front.forms with
  | nil => rfl
  | cons a forms ih =>
    rw [List.map_cons, List.filter_cons, List.filterMap_cons, reportedKind?_eq, ih]
    by_cases hname : reportedAnnotations.contains a.use.name = true
    · rw [if_pos hname, if_pos hname, Option.map_some, h, List.map_cons]
    · rw [if_neg hname, if_neg hname, Option.map_none]

section Facts

variable {packageName : String} {imports : List String} {controller : String}

theorem Front.filterMap_typeFact? (front : Front) :
    front.forms.filterMap (typeFact? packageName imports controller) =
      typeFacts packageName imports controller front.annotations := by
  refine front.filterMap_reportedKind? .type fun a ↦ ?_
  dsimp only
  split <;> rfl

theorem Method.key_eq (m : Method) : m.key controller = methodKey controller m.method := by
  have htype (p : Parameter) :
      (flatten p.type).filter (!Text.isBlank ·) = Text.removeBlanks p.parameter.type.toList := by
    rw [Parameter.parameter, String.toList_ofList, Text.removeBlanks_compact, Text.removeBlanks]
  simp only [key, methodKey, Method.method, List.map_map, Function.comp_def, htype]

theorem Method.facts_eq (m : Method) : m.facts controller = methodFacts controller m.method := by
  have hmethod : m.front.forms.filterMap (m.fact? controller) =
      (reported m.front.annotations).map (routeFact controller m.method) := by
    refine m.front.filterMap_reportedKind? .method fun a ↦ ?_
    rw [m.key_eq, routeFact]
    dsimp only
    split <;> rfl
  have hparameter (p : Parameter) : p.front.forms.filterMap (m.parameterFact? controller p) =
      (reported p.front.annotations).map (parameterFact controller m.method p.parameter) := by
    refine p.front.filterMap_reportedKind? .parameter fun a ↦ ?_
    rw [m.key_eq]
    rfl
  rw [facts, hmethod, methodFacts, Method.method, List.flatMap_map]
  exact congrArg _ (List.flatMap_congr fun p _ ↦ hparameter p)

end Facts

/-! ## Trees of members -/

namespace Member

theorem braces_ending (block : Option Block) : Closed '{' '}' 0 (ending block) := by
  cases block with
  | none => rfl
  | some block => exact closed_bracketed (by decide) block.braces rfl

theorem braces_field (f : Field) : Closed '{' '}' 0 f.lexemes := by
  have hcontinuations (cs : List Continuation) :
      Closed '{' '}' 0 (cs.flatMap Continuation.lexemes) := by
    induction cs with
    | nil => rfl
    | cons c cs ih =>
      have hc := closed_append_zero (braces_ending (some c.block))
        (c.lead.balanced.append c.balanced).braces
      rw [List.flatMap_cons, Continuation.lexemes_append]
      exact closed_append_zero (braces_ending (some c.block))
        (closed_append_zero (c.lead.balanced.append c.balanced).braces ih)
  have hlexemes := f.lexemes_append []
  rw [List.append_nil] at hlexemes
  rw [hlexemes]
  exact closed_append_zero (f.front.balanced.append f.balanced_declaration).braces
    (closed_append_zero (hcontinuations f.continuations) rfl)

mutual

theorem braces_lexemes (member : Member) : Closed '{' '}' 0 member.lexemes := by
  cases member with
  | field f =>
    rw [lexemes]
    exact braces_field f
  | constructor c =>
    rw [lexemes]
    exact closed_append_zero (c.front.balanced.append c.balanced_declaration).braces
      (braces_ending c.block)
  | method m =>
    rw [lexemes]
    exact closed_append_zero (m.front.balanced.append m.balanced_declaration).braces
      (braces_ending m.block)
  | type head members trail =>
    rw [lexemes]
    exact closed_append_zero (head.front.balanced.append head.balanced_declaration).braces
      (closed_bracketed (by decide)
        (closed_append_zero (braces_listLexemes members) trail.balanced.braces) rfl)

theorem braces_listLexemes (members : List Member) : Closed '{' '}' 0 (listLexemes members) := by
  cases members with
  | nil => rfl
  | cons member members =>
    rw [listLexemes]
    exact closed_append_zero (braces_lexemes member) (braces_listLexemes members)

end

theorem lexemes_type_append (head : TypeHead) (members : List Member) (trail : Gap)
    (after : List Lexeme) : (Member.type head members trail).lexemes ++ after =
      head.lexemes ++ .char '{' :: ((listLexemes members ++ plain trail.chars) ++
        .char '}' :: after) := by
  simp [lexemes]

/-- A type is read with what stands between its braces as its members. -/
theorem members_type_append (head : TypeHead) (members : List Member) (trail : Gap)
    (following : List Char) (after : List Lexeme) :
    Java.members following ((Member.type head members trail).lexemes ++ after) =
      .type head.front.annotations head.name.text
          (Java.members ('}' :: flatten after ++ following)
            (listLexemes members ++ plain trail.chars)) ::
        Java.members following after := by
  rw [lexemes_type_append, TypeHead.lexemes]
  exact members_type (head.front.balanced.append head.balanced_declaration).inHeader
    (peelHeader_front head.front head.startsDeclaration) head.typeName?_declaration
    (closed_append_zero (braces_listLexemes members) trail.balanced.braces) after

section Facts

variable {packageName : String} {imports : List String}

mutual

theorem membersFacts_lexemes (member : Member) (h : member.Scannable)
    (hwhole : ∀ l ∈ member.lexemes, l.IsWhole) (outer : String) (following : List Char)
    (after : List Lexeme) :
    membersFacts packageName imports outer (Java.members following (member.lexemes ++ after)) =
      member.facts packageName imports outer ++
        membersFacts packageName imports outer (Java.members following after) := by
  cases member with
  | field f =>
    rw [lexemes] at hwhole ⊢
    have hfield := f.lexemes_append []
    rw [List.append_nil] at hfield
    have hcontinuations : ∀ l ∈ f.continuations.flatMap Continuation.lexemes ++ [.char ';'],
        l.IsWhole := by
      intro l hl
      apply hwhole
      rw [hfield]
      exact List.mem_append_right _ hl
    rw [f.lexemes_append, membersFacts_continuations
      (Field.silent_continuations h hcontinuations following) (f.silent following), facts,
      List.nil_append]
  | constructor c =>
    rw [lexemes, List.append_assoc, membersFacts_silent (c.silent following), facts,
      List.nil_append]
  | method m =>
    rw [lexemes] at hwhole ⊢
    have hdeclaration : ∀ l ∈ m.declaration, l.IsWhole := fun l hl ↦
      hwhole l (List.mem_append_left _ (List.mem_append_right _ hl))
    have hread := Method.method?_declaration h hdeclaration (ending m.block ++ after) following
    rw [List.append_assoc, members_append
      (m.front.balanced.append m.balanced_declaration).inHeader
      (peelHeader_front m.front m.startsDeclaration) m.typeName?_declaration, hread,
      membersFacts_append, facts, m.facts_eq]
    simp [membersFacts, memberFacts]
  | type head members trail =>
    have hmembers : ∀ l ∈ listLexemes members, l.IsWhole := by
      intro l hl
      apply hwhole
      rw [lexemes]
      simp [hl]
    have hbody := membersFacts_listLexemes members h hmembers
      (qualify outer head.name.text) ('}' :: flatten after ++ following) (plain trail.chars)
    have htrail : Java.members ('}' :: flatten after ++ following) (plain trail.chars) = [] :=
      members_blank trail.balanced.inHeader
    rw [htrail, membersFacts, List.append_nil] at hbody
    rw [members_type_append, membersFacts, memberFacts, hbody, facts,
      head.front.filterMap_typeFact?]

theorem membersFacts_listLexemes (members : List Member) (h : AllScannable members)
    (hwhole : ∀ l ∈ listLexemes members, l.IsWhole) (outer : String) (following : List Char)
    (after : List Lexeme) :
    membersFacts packageName imports outer (Java.members following (listLexemes members ++ after)) =
      listFacts packageName imports outer members ++
        membersFacts packageName imports outer (Java.members following after) := by
  cases members with
  | nil => rw [listLexemes, listFacts, List.nil_append, List.nil_append]
  | cons member members =>
    rw [listLexemes] at hwhole ⊢
    rw [listFacts, List.append_assoc,
      membersFacts_lexemes member h.1 fun l hl ↦ hwhole l (List.mem_append_left _ hl),
      membersFacts_listLexemes members h.2 fun l hl ↦ hwhole l (List.mem_append_right _ hl),
      List.append_assoc]

end

end Facts

end Member

def isStatementChar (c : Char) : Bool :=
  Text.isBlank c || Text.isWordOrDot c || c == '*'

theorem isStatementChar_of_word {c : Char} (h : Text.isWord c = true) :
    isStatementChar c = true := by
  rw [isStatementChar, Text.isWordOrDot, h, Bool.true_or, Bool.or_true, Bool.true_or]

theorem isStatementChar_name (name : QualifiedName) : ∀ c ∈ name.chars, isStatementChar c = true :=
  fun c hc ↦ by rw [isStatementChar, name.isWordOrDot c hc, Bool.or_true, Bool.true_or]

theorem isStatementChar_gap (gap : Gap) : ∀ c ∈ gap.chars, isStatementChar c = true :=
  fun c hc ↦ by rw [isStatementChar, gap.blank c hc, Bool.true_or, Bool.true_or]

/-- No method is found without a parenthesis. -/
theorem methodHead?_of_isStatementChar {text : List Char} (hsection : text.head? ≠ some '<')
    (htext : ∀ c ∈ text, isStatementChar c = true) : methodHead? text = none := by
  have hbefore : ∀ c ∈ text, isBeforeParameters c = true := fun c hc ↦
    isBeforeParameters_of_class (by decide) (by decide) (htext c hc)
  have hnone : typedHead? (text ++ []) = none := by
    apply typedHead?_eq_none hbefore
    intro c hc
    cases hc
  rw [List.append_nil] at hnone
  rw [methodHead?_eq_typedHead? hsection, hnone]

section Statement

variable {keyword : String} (hword : ∀ c ∈ keyword.toList, Text.isWord c = true)
  (hkeyword : keyword ≠ "")
include hword hkeyword

theorem startsDeclaration_keyword (hmodifier : keyword ∉ modifiers) {gap : Gap}
    (hgap : gap.chars ≠ []) (text : List Char) :
    StartsDeclaration (plain (keyword.toList ++ (gap.chars ++ text))) := by
  have hstarts := startsDeclaration_plain hword (by rwa [String.ofList_toList])
  have hne : keyword.toList ≠ [] := fun hnil ↦ hkeyword (String.toList_eq_nil_iff.1 hnil)
  rw [plain_append, plain_append]
  exact startsDeclaration_gap hstarts hne gap fun hempty ↦ absurd hempty hgap

theorem typeName?_keyword (htype : keyword ∉ typeKeywords) {gap : Gap} (hgap : gap.chars ≠ [])
    (text : List Char) : typeName? (keyword.toList ++ (gap.chars ++ text)) = none := by
  have hfirst := firstWord_keyword hword hkeyword ⟨[], List.all_eq_true.1 rfl⟩ hgap text
  rw [trimStart_keyword hword hkeyword] at hfirst
  apply typeName?_eq_none
  rwa [hfirst]

theorem head_keyword (text : List Char) : (keyword.toList ++ text).head? ≠ some '<' := by
  have hne : keyword.toList ≠ [] := fun hnil ↦ hkeyword (String.toList_eq_nil_iff.1 hnil)
  rw [List.head?_append_of_ne_nil _ hne]
  intro hhead
  exact absurd (hword '<' (List.mem_of_mem_head? hhead)) (by decide)

/-- A declaration without parentheses and equals signs is not read as a member. -/
theorem members_statement (hmodifier : keyword ∉ modifiers) (htype : keyword ∉ typeKeywords)
    (lead : Gap) {gap : Gap} (hgap : gap.chars ≠ []) {text : List Char}
    (htext : ∀ c ∈ text, isStatementChar c = true) (following : List Char) (after : List Lexeme) :
    members following (plain (statement lead keyword (gap.chars ++ text)) ++ after) =
      members following after := by
  have hchars : ∀ c ∈ keyword.toList ++ (gap.chars ++ text), isStatementChar c = true := by
    intro c hc
    rcases List.mem_append.1 hc with hc | hc
    · exact isStatementChar_of_word (hword c hc)
    · exact (List.mem_append.1 hc).elim (isStatementChar_gap gap c) (htext c)
  have hbalanced : Balanced (plain (keyword.toList ++ (gap.chars ++ text))) :=
    (unbracketed_plain (by decide) hchars).balanced
  have hpeel : peelHeader (plain lead.chars ++ plain (keyword.toList ++ (gap.chars ++ text))) =
      ([], plain (keyword.toList ++ (gap.chars ++ text))) := by
    rw [peelHeader_blanks]
    exact peelHeader_of_begins (startsDeclaration_keyword hword hkeyword hmodifier hgap text).1
  have hnone : typeName? (flatten (plain (keyword.toList ++ (gap.chars ++ text)))) = none := by
    rw [flatten_plain]
    exact typeName?_keyword hword hkeyword htype hgap text
  have hhead : methodHead? (flatten (plain (keyword.toList ++ (gap.chars ++ text)))) = none := by
    rw [flatten_plain]
    exact methodHead?_of_isStatementChar (head_keyword hword hkeyword _) hchars
  have hlexemes : plain (statement lead keyword (gap.chars ++ text)) ++ after =
      (plain lead.chars ++ plain (keyword.toList ++ (gap.chars ++ text))) ++
        (ending none ++ after) := by
    simp [statement, ending, plain]
  rw [hlexemes, members_append (lead.balanced.append hbalanced).inHeader hpeel hnone,
    method?_eq_none hhead]
  rfl

end Statement

theorem isStatementChar_named (i : ImportLine) : ∀ c ∈ i.named, isStatementChar c = true := by
  have hstatic : ∀ c ∈ i.static.elim [] fun gap ↦ "static".toList ++ gap.chars,
      isStatementChar c = true := by
    cases i.static with
    | none =>
      intro c hc
      cases hc
    | some gap =>
      intro c hc
      rcases List.mem_append.1 hc with hc | hc
      · have hword : "static".toList.all isStatementChar = true := by decide
        exact List.all_eq_true.1 hword c hc
      · exact isStatementChar_gap gap c hc
  have hstar : ∀ c ∈ if i.wildcard then ['.', '*'] else [], isStatementChar c = true := by
    split
    · exact List.all_eq_true.1 (by decide)
    · intro c hc
      cases hc
  intro c hc
  rcases List.mem_append.1 hc with hc | hc
  · rcases List.mem_append.1 hc with hc | hc
    · exact hstatic c hc
    · exact (List.mem_append.1 hc).elim (isStatementChar_name i.name c) (hstar c)
  · exact isStatementChar_gap i.trail c hc

theorem members_package (p : PackageLine) (following : List Char) (after : List Lexeme) :
    members following (plain p.chars ++ after) = members following after := by
  rw [PackageLine.chars, List.append_assoc]
  apply members_statement isWord_package (by decide) (by decide) (by decide) p.lead p.gap_ne_nil
  intro c hc
  exact (List.mem_append.1 hc).elim (isStatementChar_name p.name c) (isStatementChar_gap p.trail c)

theorem members_import {i : ImportLine} (h : i.Proper) (following : List Char)
    (after : List Lexeme) :
    members following (plain i.chars ++ after) = members following after := by
  rw [ImportLine.chars, ImportLine.afterKeyword_eq]
  exact members_statement isWord_import (by decide) (by decide) (by decide) i.lead h.gap_ne_nil
    (isStatementChar_named i) following after

namespace Source

theorem members_lexemes (s : Source) :
    Java.members [] s.lexemes = Java.members [] (typeLexemes s.types s.trail) := by
  have himports (is : List ImportLine) (h : ∀ i ∈ is, i.Proper) (after : List Lexeme) :
      Java.members [] (plain (is.flatMap ImportLine.chars) ++ after) = Java.members [] after := by
    induction is with
    | nil => rfl
    | cons i is ih =>
      rw [List.flatMap_cons, plain_append, List.append_assoc,
        members_import (h i List.mem_cons_self), ih fun j hj ↦ h j (List.mem_cons_of_mem _ hj)]
  rw [lexemes, plain_append, List.append_assoc]
  cases s.package with
  | none => exact himports s.imports s.proper _
  | some p => rw [Option.elim_some, members_package, himports s.imports s.proper]

theorem filter_isType (types : List TypeDeclaration) (trail : Gap) (following : List Char) :
    (Java.members following (typeLexemes types trail)).filter Java.Member.isType =
      Java.members following (typeLexemes types trail) := by
  induction types with
  | nil =>
    rw [typeLexemes, List.map_nil, Member.listLexemes, List.nil_append,
      members_blank trail.balanced.inHeader]
    rfl
  | cons t types ih =>
    rw [typeLexemes, List.map_cons, Member.listLexemes, List.append_assoc, TypeDeclaration.member,
      Member.members_type_append, List.filter_cons]
    rw [typeLexemes] at ih
    rw [ih]
    rfl

/-- What is reported from the lexemes of a source. -/
theorem facts_flatten (s : Source) (h : s.Scannable) (hwhole : ∀ l ∈ s.lexemes, l.IsWhole) :
    membersFacts s.packageName s.importNames s.packageName
      ((Java.members [] (lex (flatten s.lexemes))).filter Java.Member.isType) = s.facts := by
  have htypes : ∀ l ∈ Member.listLexemes s.members, l.IsWhole := fun l hl ↦
    hwhole l (List.mem_append_right _ (List.mem_append_left _ hl))
  have htrail : Java.members [] (plain s.trail.chars) = [] :=
    members_blank s.trail.balanced.inHeader
  calc
    _ = membersFacts s.packageName s.importNames s.packageName
          (Java.members [] (typeLexemes s.types s.trail)) := by
      rw [lex_flatten hwhole, members_lexemes, filter_isType]
    _ = s.facts ++ membersFacts s.packageName s.importNames s.packageName
          (Java.members [] (plain s.trail.chars)) := by
      rw [typeLexemes, ← members, Member.membersFacts_listLexemes s.members h htypes, facts]
    _ = s.facts := by
      rw [htrail, membersFacts, List.append_nil]

end Source

/-! ## Samples -/

namespace Sample

def noGap : Gap :=
  ⟨[], List.all_eq_true.1 rfl⟩

def space : Gap :=
  ⟨[' '], List.all_eq_true.1 rfl⟩

def newline : Gap :=
  ⟨['\n'], List.all_eq_true.1 rfl⟩

def identifier (name : String) (hne : name.toList ≠ [])
    (hword : name.toList.all Text.isWord = true) : Identifier :=
  ⟨name.toList, hne, List.all_eq_true.1 hword⟩

def useOf (name : Identifier) (hne : name.chars ≠ "interface".toList)
    (arguments : Option Enclosed) : AnnotationForm :=
  ⟨noGap, ⟨[], name⟩, hne, arguments.map fun e ↦ (noGap, e)⟩

def requestParam : AnnotationForm :=
  useOf (identifier "RequestParam" (by decide) (by decide)) (by decide) none

/-- The annotations, each with a space after it. -/
def frontOf (lead : Gap) (annotations : List AnnotationForm) : Front where
  lead := lead
  items := annotations.map fun a ↦ .annotated a space
  apart := by
    induction annotations with
    | nil => trivial
    | cons a annotations ih => exact ⟨fun _ hgap ↦ absurd hgap (List.cons_ne_nil _ _), ih⟩

/-- A parameter of the type `int`. -/
def intParameter (front : Front) (name : Identifier)
    (hstarts : StartsDeclaration (plain ("int ".toList ++ name.chars))) : Parameter where
  front := front
  type := plain "int".toList
  gap := space
  name := name
  trail := noGap
  starts := by
    rw [← plain_append]
    exact hstarts
  ends := ⟨'t', rfl, by decide, fun hgap ↦ absurd hgap (by decide)⟩
  parens := by decide
  braces := by decide
  noSplit := by decide
  levels_eq := by decide

/-- A method `f` that is mapped to the path `/f`. -/
def route (returnType : String) (gap : Gap) (parameters : List Parameter)
    (hstarts : StartsDeclaration (plain (returnType.toList ++ gap.chars ++ ['f'])))
    (htype : firstWord (returnType.toList ++ gap.chars ++ ['f']) ∉ typeKeywords)
    (hends : EndsType returnType.toList gap)
    (hreturn : Unbracketed (plain returnType.toList) ∧ returnType.toList.head? ≠ some '<' ∧
      '=' ∉ returnType.toList) : Member :=
  .method
    { front := frontOf space [useOf (identifier "GetMapping" (by decide) (by decide))
        (by decide) (some ⟨[.literal "\"/f\"".toList], by decide, by decide⟩)]
      returnType := returnType.toList
      gap := gap
      name := identifier "f" (by decide) (by decide)
      nameGap := noGap
      blanks := noGap
      parameters := parameters
      tail := []
      block := none
      starts := hstarts
      notType := htype
      noSection := hreturn.2.1
      ends := hends
      returnType_unbracketed := hreturn.1
      noAssignment := hreturn.2.2
      tail_unbracketed := by decide }

/-- A field `o` with a block in its initializer. -/
def initialized (before : String) (c : Continuation) (hbefore : Balanced (plain before.toList)) :
    Member :=
  .field
    { front := frontOf space []
      head := "Object o ".toList
      initializer := some ⟨plain before.toList, [c], hbefore⟩
      head_ne_nil := by decide
      starts := by decide
      notType := by decide
      noSection := by decide
      head_unbracketed := by decide
      noAssignment := by decide }

def controller (members : List Member) : TypeDeclaration where
  head :=
    { front := frontOf noGap [useOf (identifier "RestController" (by decide) (by decide))
        (by decide) none]
      keyword := "class"
      known := by decide
      gap := space
      gap_ne_nil := by decide
      name := identifier "A" (by decide) (by decide)
      tail := plain [' ']
      tail_unbracketed := by decide
      tail_apart := by
        intro c hc
        cases hc
        decide }
  members := members
  trail := newline

/-- The source of a controller with the given members. -/
def sourceOf (members : List Member) (hquiet : ∀ line ∈
    lineStarts (flatten (typeLexemes [controller members] noGap)), NotStatement line) : Source where
  package := none
  imports := []
  types := [controller members]
  trail := noGap
  proper := fun _ hi ↦ absurd hi List.not_mem_nil
  importLines := fun _ hi ↦ absurd hi List.not_mem_nil
  quiet := hquiet

def x : Identifier :=
  identifier "x" (by decide) (by decide)

def y : Identifier :=
  identifier "y" (by decide) (by decide)

/-- A route with one parameter after a field that is set to an array. -/
def plainSource : Source :=
  sourceOf [initialized " " ⟨⟨plain ['1'], by decide⟩, noGap, [], by decide, by decide, by decide,
      balanced_nil⟩ ⟨by decide, by decide⟩,
    route "String" space [intParameter (frontOf noGap [requestParam]) x (by decide)] (by decide)
      (by decide) ⟨'g', rfl, by decide, fun hgap ↦ absurd hgap (by decide)⟩ (by decide)]
    (by decide +kernel)

def plainLayout : Layout plainSource.lexemes where
  passages := passages ("@RestController class A \x7b/* a field */Object o = \x7b1\x7d; " ++
    "@GetMapping(\"/f\")/* a route */String f(@RequestParam int x);// int y\n\x7d").toList
  apart := by decide +kernel
  lexemes_eq := by decide +kernel

/-- A shift stands in an annotation of the first parameter. -/
def shiftSource : Source :=
  sourceOf [route "String" space
    [intParameter (frontOf noGap [useOf (identifier "Max" (by decide) (by decide)) (by decide)
        (some ⟨plain "1 << 4".toList, by decide, by decide⟩), requestParam]) x (by decide),
      intParameter (frontOf space [requestParam]) y (by decide)]
    (by decide) (by decide) ⟨'g', rfl, by decide, fun hgap ↦ absurd hgap (by decide)⟩ (by decide)]
    (by decide +kernel)

def shiftLayout : Layout shiftSource.lexemes where
  passages := passages ("@RestController class A \x7b @GetMapping(\"/f\") " ++
    "String f(@Max(1 << 4) @RequestParam int x, @RequestParam int y);\n\x7d").toList
  apart := by decide +kernel
  lexemes_eq := by decide +kernel

/-- A text that reads like a method stands in a literal after a block. -/
def literalSource : Source :=
  sourceOf [initialized " new A() " ⟨⟨[], by decide⟩, space,
      plain "+ ".toList ++ [.literal "\" f (@RequestParam int x)\"".toList], by decide, by decide,
      by decide, ⟨by decide, by decide⟩⟩ ⟨by decide, by decide⟩]
    (by decide +kernel)

def literalLayout : Layout literalSource.lexemes where
  passages := passages ("@RestController class A \x7b Object o = new A() \x7b\x7d + " ++
    "\" f (@RequestParam int x)\";\n\x7d").toList
  apart := by decide +kernel
  lexemes_eq := by decide +kernel

/-- The name of the method follows its type without a blank. -/
def gaplessSource : Source :=
  sourceOf [route "List<String>" noGap [] (by decide) (by decide)
    ⟨'>', rfl, by decide, fun _ ↦ by decide⟩ (by decide)]
    (by decide +kernel)

def gaplessLayout : Layout gaplessSource.lexemes where
  passages := passages ("@RestController class A \x7b @GetMapping(\"/f\") List<String>f();\n" ++
    "\x7d").toList
  apart := by decide +kernel
  lexemes_eq := by decide +kernel

end Sample

/-- A source is read back from any of its layouts. -/
theorem scan_layout (s : Source) (h : s.Scannable) (layout : Layout s.lexemes) :
    scan (.ofList layout.text) = s.facts := by
  rw [scan, String.toList_ofList, Outline.facts, Outline.ofText, layout.stripComments_text]
  dsimp only
  rw [s.packageName_flatten, s.imports_flatten, s.facts_flatten h layout.isWhole]

theorem scan_layout_sample : Sample.plainSource.Scannable ∧
    scan (.ofList Sample.plainLayout.text) = Sample.plainSource.facts := by
  have hscannable : Sample.plainSource.Scannable := by
    refine ⟨⟨?_, ⟨by decide, by decide⟩, trivial⟩, trivial⟩
    intro i hi c hc
    cases hi
    rw [List.mem_singleton.1 hc]
    apply Continuation.scannable_of_literals
    intro text htext
    cases htext
  exact ⟨hscannable, scan_layout Sample.plainSource hscannable Sample.plainLayout⟩

/-- With a shift in an annotation two parameters are read as one. -/
theorem scan_layout_ne_of_shift :
    scan (.ofList Sample.shiftLayout.text) ≠ Sample.shiftSource.facts := by
  decide +kernel

/-- A method is found inside a literal. -/
theorem scan_layout_ne_of_literal :
    scan (.ofList Sample.literalLayout.text) ≠ Sample.literalSource.facts := by
  decide +kernel

/-- A method without a blank before its name is not found. -/
theorem scan_layout_ne_of_no_gap :
    scan (.ofList Sample.gaplessLayout.text) ≠ Sample.gaplessSource.facts := by
  decide +kernel

end EndpointStubs.Java.Written
