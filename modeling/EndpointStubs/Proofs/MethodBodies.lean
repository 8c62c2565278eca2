import EndpointStubs.Proofs.DeclarationTree
import EndpointStubs.Proofs.OpaqueBlocks

/-!
# Bodies of methods

The body of a method is a block that is passed over, wherever the method is
declared in a tree of types and however the source is laid out. So the facts of
a source say nothing about the bodies of its methods. Text blocks in a body are
not covered: a brace in one is read as code.
-/

namespace EndpointStubs.Java.Written

theorem MethodForm.isOther (m : MethodForm) (hwhole : ∀ l ∈ m.declaration, l.IsWhole) :
    IsOther (m.front.lexemes ++ m.declaration) := by
  have hpeel := peelHeader_front m.front m.startsDeclaration
  refine ⟨(m.front.balanced.append m.balanced_declaration).inHeader, ?_, ?_⟩
  · rw [hpeel]
    exact m.typeName?_declaration
  · intro head hhead
    rw [hpeel] at hhead
    rw [(methodHead?_declaration hhead).2, closing_lex_list hwhole]
    rfl

theorem TypeOpening.isSome_typeName? (opening : TypeOpening) :
    (typeName? (flatten (peelHeader opening.lexemes).2)).isSome := by
  rw [lexemes, peelHeader_front opening.head.front opening.startsDeclaration,
    opening.typeName?_declaration]
  rfl

namespace Declaration

mutual

/-- What is neither a method nor a type, at all levels. -/
def others : Declaration → List OtherText
  | method _ => []
  | type _ declarations _ => listOthers declarations
  | other text => [text]

def listOthers : List Declaration → List OtherText
  | [] => []
  | declaration :: declarations => declaration.others ++ listOthers declarations

end

mutual

theorem areReadAlone_append {declaration : Declaration}
    (hothers : ∀ text ∈ declaration.others, IsOther text.header.lexemes)
    (hwhole : ∀ l ∈ declaration.lexemes, l.IsWhole) {rest : List Lexeme}
    (hrest : AreReadAlone rest) : AreReadAlone (declaration.lexemes ++ rest) := by
  cases declaration with
  | method m =>
    rw [lexemes] at hwhole ⊢
    have hdeclaration : ∀ l ∈ m.declaration, l.IsWhole := fun l hl ↦
      hwhole l (List.mem_append_left _ (List.mem_append_right _ hl))
    rw [MethodForm.lexemes, List.append_assoc]
    exact .other (m.isOther hdeclaration) m.block hrest
  | type opening declarations trail =>
    rw [others] at hothers
    have hdeclarations : ∀ l ∈ listLexemes declarations, l.IsWhole := by
      intro l hl
      apply hwhole
      rw [lexemes]
      simp [hl]
    have hbody := areReadAlone_listLexemes_append hothers hdeclarations .nil
    have hbraces := closed_append_zero (braces_listLexemes declarations) trail.balanced.braces
    have hlexemes : (type opening declarations trail).lexemes ++ rest =
        opening.lexemes ++ .char '{' :: (listLexemes declarations ++ trail.lexemes ++
          .char '}' :: rest) := by
      simp [lexemes]
    rw [List.append_nil] at hbody
    rw [hlexemes]
    exact .type (opening.head.front.balanced.append opening.balanced_declaration).inHeader
      opening.isSome_typeName? hbody trail.balanced.inHeader hbraces hrest
  | other text =>
    rw [lexemes, OtherText.lexemes, List.append_assoc]
    exact .other (hothers text (by simp [others])) text.block hrest

theorem areReadAlone_listLexemes_append {declarations : List Declaration}
    (hothers : ∀ text ∈ listOthers declarations, IsOther text.header.lexemes)
    (hwhole : ∀ l ∈ listLexemes declarations, l.IsWhole) {rest : List Lexeme}
    (hrest : AreReadAlone rest) : AreReadAlone (listLexemes declarations ++ rest) := by
  cases declarations with
  | nil => exact hrest
  | cons declaration declarations =>
    rw [listOthers, List.forall_mem_append] at hothers
    rw [listLexemes] at hwhole ⊢
    rw [List.forall_mem_append] at hwhole
    rw [List.append_assoc]
    exact areReadAlone_append hothers.1 hwhole.1
      (areReadAlone_listLexemes_append hothers.2 hwhole.2 hrest)

end

theorem areReadAlone_listLexemes {declarations : List Declaration}
    (hothers : ∀ text ∈ listOthers declarations, IsOther text.header.lexemes)
    (hwhole : ∀ l ∈ listLexemes declarations, l.IsWhole) :
    AreReadAlone (listLexemes declarations) := by
  have happend := areReadAlone_listLexemes_append hothers hwhole .nil
  rwa [List.append_nil] at happend

end Declaration

/-- A type around a method, and what is declared before that type. -/
structure Level where
  before : List Declaration
  opening : TypeOpening

/-- What stands before the body of a method: the types around it, from the outside, what is declared
before it in the innermost one, and the method itself, of which only the header counts. -/
structure MethodPlace where
  around : List Level
  before : List Declaration
  method : MethodForm

namespace MethodPlace

def lexemesWithin (before : List Declaration) (method : MethodForm) : List Level → List Lexeme
  | [] => Declaration.listLexemes before ++ (method.front.lexemes ++ method.declaration)
  | level :: around =>
    Declaration.listLexemes level.before ++
      (level.opening.lexemes ++ .char '{' :: lexemesWithin before method around)

/-- The text up to the body. -/
def lexemes (place : MethodPlace) : List Lexeme :=
  lexemesWithin place.before place.method place.around

/-- What is declared before and is neither a method nor a type. -/
def others (place : MethodPlace) : List OtherText :=
  place.around.flatMap (fun level ↦ Declaration.listOthers level.before) ++
    Declaration.listOthers place.before

section Within

variable {before : List Declaration} {method : MethodForm} {around : List Level}

/-- The types around a method are open. -/
theorem closing_lexemesWithin (depth : Nat) :
    closing '{' '}' depth (lexemesWithin before method around) = none := by
  induction around generalizing depth with
  | nil =>
    have hbraces : Closed '{' '}' 0 (lexemesWithin before method []) :=
      closed_append_zero (Declaration.braces_listLexemes before)
        (method.front.balanced.append method.balanced_declaration).braces
    have hclose := closing_append_of_closed hbraces depth []
    rwa [List.append_nil, Nat.zero_add, closing, Option.map_none] at hclose
  | cons level around ih =>
    have hbraces := closed_append_zero (Declaration.braces_listLexemes level.before)
      (level.opening.head.front.balanced.append level.opening.balanced_declaration).braces
    have hclose := closing_append_of_closed hbraces depth
      (.char '{' :: lexemesWithin before method around)
    rw [closing, if_neg (by decide), if_pos rfl, ih, Option.map_none, Option.map_none,
      Nat.zero_add, List.append_assoc] at hclose
    exact hclose

theorem opensBlock_lexemesWithin
    (haround : ∀ level ∈ around, ∀ text ∈ Declaration.listOthers level.before,
      IsOther text.header.lexemes)
    (hbefore : ∀ text ∈ Declaration.listOthers before, IsOther text.header.lexemes)
    (hwhole : ∀ l ∈ lexemesWithin before method around, l.IsWhole) :
    OpensBlock (lexemesWithin before method around) := by
  induction around with
  | nil =>
    rw [lexemesWithin, List.forall_mem_append, List.forall_mem_append] at hwhole
    exact .behind (Declaration.areReadAlone_listLexemes hbefore hwhole.1)
      (.header (method.isOther hwhole.2.2))
  | cons level around ih =>
    rw [lexemesWithin, List.forall_mem_append, List.forall_mem_append, List.forall_mem_cons]
      at hwhole
    obtain ⟨hlevel, haround⟩ := List.forall_mem_cons.1 haround
    exact .behind (Declaration.areReadAlone_listLexemes hlevel hwhole.1)
      (.type (level.opening.head.front.balanced.append level.opening.balanced_declaration).inHeader
        level.opening.isSome_typeName? (closing_lexemesWithin 0) (ih haround hwhole.2.2.2))

end Within

/-- Whatever the layout is, the body of a method is passed over. -/
theorem isBeforeBlock (place : MethodPlace)
    (hothers : ∀ text ∈ place.others, IsOther text.header.lexemes)
    (layout : Layout place.lexemes) (hcode : IsCodeAfter layout.text '{') :
    IsBeforeBlock layout.text := by
  refine ⟨hcode, ?_⟩
  rw [others, List.forall_mem_append] at hothers
  rw [layout.stripComments_text, lex_flatten layout.isWhole]
  refine opensBlock_lexemesWithin (fun level hlevel text htext ↦ ?_) hothers.2 layout.isWhole
  exact hothers.1 text (List.mem_flatMap.2 ⟨level, hlevel, htext⟩)

end MethodPlace

end EndpointStubs.Java.Written

namespace EndpointStubs

open Java Written

/-- Whatever a block holds that is the body of a method, what the source reports is the same with an
empty one in its place. The same goes for every block that is not the body of a type, wherever and
however it is written, as long as its brackets are read as they are closed. -/
theorem method_bodies_passed_over (after : List Char) :
    (∀ (place : MethodPlace) (layout : Layout place.lexemes) (block : BlockForm),
      IsCodeAfter layout.text '{' → (∀ text ∈ place.others, IsOther text.header.lexemes) →
      scan (.ofList (layout.text ++ '{' :: (block.text ++ '}' :: after))) =
        scan (.ofList (layout.text ++ '{' :: '}' :: after))) ∧
    ∀ before body : List Char, IsBeforeBlock before → IsBlockText body →
      scan (.ofList (before ++ '{' :: (body ++ '}' :: after))) =
        scan (.ofList (before ++ '{' :: '}' :: after)) := by
  have hscan (before body : List Char) (hbefore : IsBeforeBlock before)
      (hbody : IsBlockText body) : scan (.ofList (before ++ '{' :: (body ++ '}' :: after))) =
        scan (.ofList (before ++ '{' :: '}' :: after)) := by
    rw [scan, scan, String.toList_ofList, String.toList_ofList, hbefore.ofText_eq hbody]
  refine ⟨fun place layout block hcode hothers ↦ ?_, hscan⟩
  exact hscan layout.text block.text (place.isBeforeBlock hothers layout hcode) block.isBlockText

namespace Java.Written.Sample

/-- A method of a class behind an import, with a field before it. -/
def mappedMethod : MethodPlace where
  around := [⟨[.other ⟨⟨plain "import x.Y".toList, by decide, by decide⟩, none⟩],
    ⟨(controller []).head, none⟩⟩]
  before := [.other ⟨⟨plain " R r = () -> ".toList, by decide, by decide⟩,
    some ⟨plain " ".toList, by decide⟩⟩, .other ⟨⟨[], balanced_nil⟩, none⟩]
  method :=
    { front := frontOf newline [useOf (identifier "ResponseBody" (by decide) (by decide)) (by decide)
        (some ⟨[.literal "\"/\x7b(\"".toList], by decide, by decide⟩)]
      head := ['T']
      gap := space
      name := identifier "page" (by decide) (by decide)
      nameGap := noGap
      blanks := noGap
      formals := []
      tail := plain "   ".toList
      block := none
      starts := by decide
      notType := by decide
      ends := ⟨'T', rfl, by decide, fun hgap ↦ absurd hgap (by decide)⟩
      head_unbracketed := by decide
      noAssignment := by decide
      section_closed := fun hsection ↦ absurd hsection (by decide)
      tail_balanced := ⟨by decide, by decide⟩ }

/-- The method with comments around it. -/
def mappedLayout : Layout mappedMethod.lexemes where
  passages := passages ("import x.Y;@RestController class A \x7b R r = () -> \x7b \x7d;// \x7d\n" ++
    "@ResponseBody(\"/\x7b(\") T page() /* \x7d */ ").toList
  apart := by decide +kernel
  lexemes_eq := by decide +kernel

/-- A block with a comment, a class with an annotation, a lambda, and literals. -/
def block : BlockForm where
  passages := passages ("// \x7d @\n class L \x7b @GetMapping(\"/x\") T g() \x7b" ++
    " return \"\x7d\\\";\"; \x7d \x7d run(() -> \x7b char c = '\x7d'; \x7d); ").toList
  apart := by decide +kernel
  braces := by decide +kernel
  parens := by decide +kernel
  quiet := by decide +kernel

/-- A field that is given the result of a call. -/
def assigned : Field where
  front := frontOf space []
  head := "T t ".toList
  initializer := none
  head_ne_nil := by decide
  starts := by decide
  notType := by decide
  noSection := by decide
  head_unbracketed := by decide
  noAssignment := by decide

/-- The text up to the body of a method in a class without a name, in the arguments of the call. -/
def argument : List Char :=
  "class A \x7b T t = run(new T() \x7b T f() ".toList

theorem isBeforeBlock_argument : IsBeforeBlock argument := by
  have hlex : lex (stripComments argument) =
      lex "class A ".toList ++ .char '{' :: (lex " T t = run".toList ++ .char '(' ::
        lex "new T() \x7b T f() ".toList) := by
    decide +kernel
  have hfield : lex " T t = run".toList ++ .char '(' :: lex "new T() \x7b T f() ".toList =
      assigned.front.lexemes ++ (plain assigned.head ++ .char '=' ::
        lex " run(new T() \x7b T f() ".toList) := by
    decide +kernel
  refine ⟨by decide +kernel, ?_⟩
  rw [hlex]
  refine .type (by decide +kernel) (by decide +kernel) (by decide +kernel)
    (.parenthesis (by decide +kernel) (by decide +kernel) ?_)
  rw [hfield]
  exact assigned.declaresNothing _

def rest : List Char :=
  " @GetMapping T g(); \x7d \x7d".toList

end Java.Written.Sample

/-- The same block as the body of a method of a class, and of one in the arguments of a call. -/
theorem method_bodies_passed_over_nested :
    scan (.ofList (Sample.mappedLayout.text ++ '{' :: (Sample.block.text ++ '}' :: Sample.rest))) =
        scan (.ofList (Sample.mappedLayout.text ++ '{' :: '}' :: Sample.rest)) ∧
      scan (.ofList (Sample.argument ++ '{' :: (Sample.block.text ++ '}' :: Sample.rest))) =
        scan (.ofList (Sample.argument ++ '{' :: '}' :: Sample.rest)) :=
  ⟨(method_bodies_passed_over Sample.rest).1 Sample.mappedMethod Sample.mappedLayout Sample.block
      (by decide +kernel) (by decide +kernel),
    (method_bodies_passed_over Sample.rest).2 Sample.argument Sample.block.text
      Sample.isBeforeBlock_argument Sample.block.isBlockText⟩

/-- A text block is read as literals that end with their lines, so that a brace in it closes the
block of the method, and the next method is lost. -/
theorem text_block_read :
    let before := "@RestController class A \x7b String a() ".toList
    let body := " return \"\"\"\n\x7d\"\"\";\n".toList
    let after := " @GetMapping String b() \x7b return null; \x7d \x7d".toList
    scan (.ofList (before ++ '{' :: (body ++ '}' :: after))) ≠
      scan (.ofList (before ++ '{' :: '}' :: after)) := by
  intro before body after
  rw [scan, scan, String.toList_ofList, String.toList_ofList]
  decide +kernel

end EndpointStubs
