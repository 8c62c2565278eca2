import EndpointStubs.Fact.Scan
import EndpointStubs.Proofs.BracketBalance

/-!
# Written sources

A source as it is written down: the tree of its declarations together with the
blanks between their tokens, and the lexemes that this makes. Comments are added
by a layout. The parts of the tree are what the language allows and no more than
the scanner needs; what a source reports is read off the tree.
-/

namespace EndpointStubs.Java.Written

def plain (chars : List Char) : List Lexeme :=
  chars.map .char

structure Gap where
  chars : List Char
  blank : ∀ c ∈ chars, Text.isBlank c = true

structure Identifier where
  chars : List Char
  ne_nil : chars ≠ []
  word : ∀ c ∈ chars, Text.isWord c = true

def Identifier.text (name : Identifier) : String :=
  .ofList name.chars

structure QualifiedName where
  qualifiers : List Identifier
  last : Identifier

def QualifiedName.chars (name : QualifiedName) : List Char :=
  name.qualifiers.flatMap (fun q ↦ q.chars ++ ['.']) ++ name.last.chars

/-- Text that may stand between parentheses or braces. -/
structure Enclosed where
  lexemes : List Lexeme
  parens : Closed '(' ')' 0 lexemes
  braces : Closed '{' '}' 0 lexemes

structure AnnotationForm where
  gap : Gap
  name : QualifiedName
  ne_interface : name.chars ≠ "interface".toList
  arguments : Option (Gap × Enclosed)

/-- The arguments with the parentheses around them. -/
def AnnotationForm.argumentLexemes (a : AnnotationForm) : List Lexeme :=
  a.arguments.elim [] fun x ↦ plain x.1.chars ++ .char '(' :: (x.2.lexemes ++ [.char ')'])

def AnnotationForm.lexemes (a : AnnotationForm) : List Lexeme :=
  .char '@' :: (plain a.gap.chars ++ (plain a.name.chars ++ a.argumentLexemes))

/-- What the annotation is reported as. -/
def AnnotationForm.use (a : AnnotationForm) : AnnotationUse :=
  ⟨a.name.last.text, a.arguments.map fun x ↦ flatten x.2.lexemes⟩

inductive Item where
  | annotated (a : AnnotationForm) (gap : Gap)
  | modifier (word : String) (known : word ∈ modifiers) (gap : Gap)

namespace Item

def gap : Item → Gap
  | annotated _ gap => gap
  | modifier _ _ gap => gap

def lexemes : Item → List Lexeme
  | annotated a gap => a.lexemes ++ plain gap.chars
  | modifier word _ gap => plain word.toList ++ plain gap.chars

def isAnnotation : Item → Bool
  | annotated .. => true
  | modifier .. => false

/-- Before its gap the item ends in a word. -/
def endsInWord : Item → Bool
  | annotated a _ => a.arguments.isNone
  | modifier .. => true

def form? : Item → Option AnnotationForm
  | annotated a _ => some a
  | modifier .. => none

def use? (item : Item) : Option AnnotationUse :=
  item.form?.map AnnotationForm.use

/-- A word does not run into what follows it. -/
def Apart : List Item → Prop
  | [] => True
  | item :: rest =>
    (item.endsInWord → item.gap.chars = [] → ∃ next ∈ rest.head?, next.isAnnotation) ∧ Apart rest

end Item

/-- The annotations and modifiers of a declaration, in any order, and the blanks before them. -/
structure Front where
  lead : Gap
  items : List Item
  apart : Item.Apart items

namespace Front

def lexemes (front : Front) : List Lexeme :=
  plain front.lead.chars ++ front.items.flatMap Item.lexemes

def forms (front : Front) : List AnnotationForm :=
  front.items.filterMap Item.form?

def annotations (front : Front) : List AnnotationUse :=
  front.items.filterMap Item.use?

end Front

/-- The text starts with neither a blank, nor an annotation, nor a modifier. -/
def Begins (ls : List Lexeme) : Prop :=
  (∀ l ∈ ls.head?, l.isBlank = false ∧ l ≠ .char '@') ∧
    String.ofList (flatten (ls.takeWhile (Lexeme.is isModifierChar))) ∉ modifiers

instance (ls : List Lexeme) : Decidable (Begins ls) :=
  inferInstanceAs (Decidable (_ ∧ _))

/-- The text may follow annotations and modifiers. -/
def StartsDeclaration (ls : List Lexeme) : Prop :=
  Begins ls ∧ ls.head? ≠ some (.char '(')

instance (ls : List Lexeme) : Decidable (StartsDeclaration ls) :=
  inferInstanceAs (Decidable (_ ∧ _))

/-- The text ends with a character that is not blank; if a word follows without a gap, it is not
the end of a word. -/
def EndsType (type : List Char) (gap : Gap) : Prop :=
  ∃ c ∈ type.getLast?, Text.isBlank c = false ∧ (gap.chars = [] → Text.isWord c = false)

/-- The text has no parenthesis, brace or semicolon. -/
def Unbracketed (ls : List Lexeme) : Prop :=
  ∀ l ∈ ls, l ∉ ['(', ')', '{', '}', ';'].map Lexeme.char

instance (ls : List Lexeme) : Decidable (Unbracketed ls) :=
  inferInstanceAs (Decidable (∀ l ∈ ls, _))

def firstWord (chars : List Char) : String :=
  .ofList (chars.takeWhile Text.isWord)

structure Block where
  lexemes : List Lexeme
  braces : Closed '{' '}' 0 lexemes

/-- What ends a declaration: its block, or a semicolon. -/
def ending : Option Block → List Lexeme
  | none => [.char ';']
  | some block => .char '{' :: (block.lexemes ++ [.char '}'])

structure Parameter where
  front : Front
  type : List Lexeme
  gap : Gap
  name : Identifier
  trail : Gap
  starts : StartsDeclaration (type ++ plain (gap.chars ++ name.chars))
  ends : EndsType (flatten type) gap
  parens : Closed '(' ')' 0 type
  braces : Closed '{' '}' 0 type
  noSplit : NoSplit 0 type
  levels_eq : levels type = 0

namespace Parameter

def declaration (p : Parameter) : List Lexeme :=
  p.type ++ plain (p.gap.chars ++ p.name.chars) ++ plain p.trail.chars

def lexemes (p : Parameter) : List Lexeme :=
  p.front.lexemes ++ p.declaration

def parameter (p : Parameter) : Java.Parameter :=
  ⟨p.front.annotations, .ofList (Text.compact (flatten p.type)), p.name.text⟩

/-- The parameters with commas between them; blanks, if there are none. -/
def listLexemes (blanks : Gap) : List Parameter → List Lexeme
  | [] => plain blanks.chars
  | [p] => p.lexemes
  | p :: q :: rest => p.lexemes ++ .char ',' :: listLexemes blanks (q :: rest)

end Parameter

structure Method where
  front : Front
  returnType : List Char
  gap : Gap
  name : Identifier
  nameGap : Gap
  blanks : Gap
  parameters : List Parameter
  tail : List Lexeme
  block : Option Block
  starts : StartsDeclaration (plain (returnType ++ gap.chars ++ name.chars))
  notType : firstWord (returnType ++ gap.chars ++ name.chars) ∉ typeKeywords
  noSection : returnType.head? ≠ some '<'
  ends : EndsType returnType gap
  returnType_unbracketed : Unbracketed (plain returnType)
  noAssignment : '=' ∉ returnType
  tail_unbracketed : Unbracketed tail

namespace Method

/-- The declaration up to the parenthesis. -/
def signature (m : Method) : List Char :=
  m.returnType ++ m.gap.chars ++ m.name.chars ++ m.nameGap.chars

def declaration (m : Method) : List Lexeme :=
  plain m.signature ++
    .char '(' :: (Parameter.listLexemes m.blanks m.parameters ++ .char ')' :: m.tail)

def method (m : Method) : Java.Method :=
  ⟨m.front.annotations, .ofList (Text.compact m.returnType), m.name.text,
    m.parameters.map Parameter.parameter⟩

end Method

structure Constructor where
  front : Front
  name : Identifier
  gap : Gap
  arguments : Enclosed
  tail : List Lexeme
  block : Option Block
  notModifier : name.text ∉ modifiers
  notType : name.text ∉ typeKeywords
  tail_unbracketed : Unbracketed tail

def Constructor.declaration (c : Constructor) : List Lexeme :=
  plain (c.name.chars ++ c.gap.chars) ++ .char '(' :: (c.arguments.lexemes ++ .char ')' :: c.tail)

/-- A block in the initializer of a field, and the text after it up to the next block. -/
structure Continuation where
  block : Block
  lead : Gap
  text : List Lexeme
  begins : Begins text
  notType : firstWord (flatten text) ∉ typeKeywords
  notAnnotated : .char '@' ∉ text
  balanced : Balanced text

def Continuation.lexemes (c : Continuation) : List Lexeme :=
  .char '{' :: (c.block.lexemes ++ .char '}' :: (plain c.lead.chars ++ c.text))

structure Initializer where
  text : List Lexeme
  continuations : List Continuation
  balanced : Balanced text

def Initializer.lexemes (i : Initializer) : List Lexeme :=
  .char '=' :: (i.text ++ i.continuations.flatMap Continuation.lexemes)

structure Field where
  front : Front
  head : List Char
  initializer : Option Initializer
  head_ne_nil : head ≠ []
  starts : StartsDeclaration (plain head)
  notType : firstWord head ∉ typeKeywords
  noSection : head.head? ≠ some '<'
  head_unbracketed : Unbracketed (plain head)
  noAssignment : '=' ∉ head

def Field.lexemes (f : Field) : List Lexeme :=
  f.front.lexemes ++ plain f.head ++ f.initializer.elim [] Initializer.lexemes ++ [.char ';']

/-- The head of a type declaration. -/
structure TypeHead where
  front : Front
  keyword : String
  known : keyword ∈ typeKeywords
  gap : Gap
  gap_ne_nil : gap.chars ≠ []
  name : Identifier
  tail : List Lexeme
  tail_unbracketed : Unbracketed tail
  tail_apart : ∀ c ∈ (flatten tail).head?, Text.isWord c = false

namespace TypeHead

def declaration (t : TypeHead) : List Lexeme :=
  plain (t.keyword.toList ++ (t.gap.chars ++ t.name.chars)) ++ t.tail

def lexemes (t : TypeHead) : List Lexeme :=
  t.front.lexemes ++ t.declaration

end TypeHead

inductive Member where
  | field (f : Field)
  | constructor (c : Constructor)
  | method (m : Method)
  | type (head : TypeHead) (members : List Member) (trail : Gap)

/-! ## What is reported -/

/-- The kind of the fact that an annotation with this name is reported as, if it is reported. It has
its own kind where it belongs, and on other declarations the unknown one. -/
def reportedKind? : Site → String → Option FactKind
  | .type, "RestController" => some .controller
  | .method, "GetMapping" => some .getRoute
  | .method, "PostMapping" => some .postRoute
  | .parameter, "RequestParam" => some .requestParam
  | .parameter, "PathVariable" => some .pathVariable
  | .parameter, "RequestBody" => some .requestBody
  | _, "RestController" | _, "GetMapping" | _, "PostMapping" | _, "RequestParam"
  | _, "PathVariable" | _, "RequestBody" | _, "Controller" | _, "ResponseBody" => some .unknown
  | _, _ => none

/-- The values of an attribute of the annotation. -/
def AnnotationForm.values (a : AnnotationForm) (name : String) : List String :=
  ((attributes (a.arguments.map fun x ↦ flatten x.2.lexemes)).get? name).getD []

/-- What an annotation on a type is reported as; that of a controller with package and imports. -/
def typeFact? (packageName : String) (imports : List String) (controller : String)
    (a : AnnotationForm) : Option Fact :=
  (reportedKind? .type a.name.last.text).map fun kind ↦
    { kind
      annotationName := a.name.last.text
      element := controller
      controller
      packageName := if kind = .controller then some packageName else none
      imports := if kind = .controller then imports else [] }

namespace Method

/-- The declaring type, the name and, without blanks, the types of the parameters. -/
def key (m : Method) (controller : String) : String :=
  let types := m.parameters.map fun p ↦ .ofList ((flatten p.type).filter (!Text.isBlank ·))
  controller ++ "." ++ m.name.text ++ "(" ++ ",".intercalate types ++ ")"

/-- What an annotation on a method is reported as; that of a route with the templates and the
return type. -/
def fact? (m : Method) (controller : String) (a : AnnotationForm) : Option Fact :=
  (reportedKind? .method a.name.last.text).map fun kind ↦
    { kind
      annotationName := a.name.last.text
      element := m.key controller
      controller
      methodKey := some (m.key controller)
      methodName := some m.name.text
      path := if kind = .unknown then [] else a.values "path"
      value := if kind = .unknown then [] else a.values "value"
      typeText := if kind = .unknown then none else some (.ofList (Text.compact m.returnType)) }

/-- What an annotation on a parameter is reported as. -/
def parameterFact? (m : Method) (controller : String) (p : Parameter) (a : AnnotationForm) :
    Option Fact :=
  (reportedKind? .parameter a.name.last.text).map fun kind ↦
    { kind
      annotationName := a.name.last.text
      element := p.name.text
      controller
      methodKey := some (m.key controller)
      methodName := some m.name.text
      typeText := some (.ofList (Text.compact (flatten p.type)))
      name := some p.name.text
      givenName := (a.values "value").head? <|> (a.values "name").head? }

def facts (m : Method) (controller : String) : List Fact :=
  m.front.forms.filterMap (m.fact? controller) ++
    m.parameters.flatMap fun p ↦ p.front.forms.filterMap (m.parameterFact? controller p)

end Method

namespace Member

mutual

def lexemes : Member → List Lexeme
  | field f => f.lexemes
  | constructor c => c.front.lexemes ++ c.declaration ++ ending c.block
  | method m => m.front.lexemes ++ m.declaration ++ ending m.block
  | type head members trail =>
    head.lexemes ++ .char '{' :: (listLexemes members ++ plain trail.chars ++ [.char '}'])

def listLexemes : List Member → List Lexeme
  | [] => []
  | member :: members => member.lexemes ++ listLexemes members

end

mutual

/-- What the annotations of a member of `outer` are reported as, in the order in which they are
written. -/
def facts (packageName : String) (imports : List String) (outer : String) : Member → List Fact
  | field _ => []
  | constructor _ => []
  | method m => m.facts outer
  | type head members _ =>
    head.front.forms.filterMap (typeFact? packageName imports (qualify outer head.name.text)) ++
      listFacts packageName imports (qualify outer head.name.text) members

def listFacts (packageName : String) (imports : List String) (outer : String) :
    List Member → List Fact
  | [] => []
  | member :: members =>
    facts packageName imports outer member ++ listFacts packageName imports outer members

end

end Member

/-- The text starts with neither of the words that start a package or an import declaration. -/
def NotStatement (text : List Char) : Prop :=
  firstWord (Text.trimStart text) ∉ ["package", "import"]

instance (text : List Char) : Decidable (NotStatement text) :=
  inferInstanceAs (Decidable (_ ∉ _))

/-- No line after the first one starts with the word package or import. -/
def Quiet (text : List Char) : Prop :=
  ∀ line ∈ lineStarts.newlineTails text, NotStatement line

instance (text : List Char) : Decidable (Quiet text) :=
  inferInstanceAs (Decidable (∀ line ∈ _, NotStatement line))

/-- A declaration that starts with a keyword and ends with a semicolon. -/
def statement (lead : Gap) (keyword : String) (text : List Char) : List Char :=
  lead.chars ++ (keyword.toList ++ (text ++ [';']))

structure PackageLine where
  lead : Gap
  gap : Gap
  name : QualifiedName
  trail : Gap
  gap_ne_nil : gap.chars ≠ []
  quiet : Quiet (gap.chars ++ name.chars ++ trail.chars)

def PackageLine.chars (p : PackageLine) : List Char :=
  statement p.lead "package" (p.gap.chars ++ p.name.chars ++ p.trail.chars)

structure ImportLine where
  lead : Gap
  gap : Gap
  /-- The blanks after the word static, if it is there. -/
  static : Option Gap
  name : QualifiedName
  wildcard : Bool
  trail : Gap

namespace ImportLine

def imported (i : ImportLine) : List Char :=
  i.name.chars ++ if i.wildcard then ['.', '*'] else []

def afterKeyword (i : ImportLine) : List Char :=
  i.gap.chars ++ (i.static.elim [] fun gap ↦ "static".toList ++ gap.chars) ++ i.imported ++
    i.trail.chars

def chars (i : ImportLine) : List Char :=
  statement i.lead "import" i.afterKeyword

/-- The words are kept apart, and no further line starts like a declaration of its kind. -/
structure Proper (i : ImportLine) : Prop where
  gap_ne_nil : i.gap.chars ≠ []
  static_ne_nil : ∀ gap ∈ i.static, gap.chars ≠ []
  notStatic : i.static = none → firstWord i.name.chars ≠ "static"
  quiet : Quiet i.afterKeyword

/-- Static imports are not reported. -/
def imported? (i : ImportLine) : Option String :=
  if i.static.isSome then none else some (.ofList i.imported)

end ImportLine

structure TypeDeclaration where
  head : TypeHead
  members : List Member
  trail : Gap

def TypeDeclaration.member (t : TypeDeclaration) : Member :=
  .type t.head t.members t.trail

/-- The declarations of types, and the blanks at the end of a source. -/
def typeLexemes (types : List TypeDeclaration) (trail : Gap) : List Lexeme :=
  Member.listLexemes (types.map TypeDeclaration.member) ++ plain trail.chars

/-- A source. Each import starts a line, and no other line does so with the word package or
import. -/
structure Source where
  package : Option PackageLine
  imports : List ImportLine
  types : List TypeDeclaration
  trail : Gap
  proper : ∀ i ∈ imports, i.Proper
  importLines : ∀ i ∈ if package.isSome then imports else imports.tail, '\n' ∈ i.lead.chars
  quiet : ∀ line ∈ lineStarts (flatten (typeLexemes types trail)), NotStatement line

namespace Source

def packageName (s : Source) : String :=
  s.package.elim "" fun p ↦ .ofList p.name.chars

def importNames (s : Source) : List String :=
  s.imports.filterMap ImportLine.imported?

def members (s : Source) : List Member :=
  s.types.map TypeDeclaration.member

def lexemes (s : Source) : List Lexeme :=
  plain (s.package.elim [] PackageLine.chars ++ s.imports.flatMap ImportLine.chars) ++
    typeLexemes s.types s.trail

def facts (s : Source) : List Fact :=
  Member.listFacts s.packageName s.importNames s.packageName s.members

end Source

/-! ## Sources that are read back

The list of parameters is cut with every angle bracket counted, signatures are read without regard
to literals, and a method is only seen with blanks before its name.
-/

/-- The comma after a parameter is outside of all brackets, the angle brackets in annotations
counted too, and no other comma is. -/
def Parameter.Separated : List Parameter → Prop
  | [] => True
  | [p] => NoSplit 0 p.lexemes
  | p :: q :: rest =>
    NoSplit 0 p.front.lexemes ∧ levels p.front.lexemes = 0 ∧ Separated (q :: rest)

instance Parameter.decidableSeparated : (ps : List Parameter) → Decidable (Separated ps)
  | [] => inferInstanceAs (Decidable True)
  | [p] => inferInstanceAs (Decidable (NoSplit 0 p.lexemes))
  | _ :: q :: rest =>
    have := decidableSeparated (q :: rest)
    inferInstanceAs (Decidable (_ ∧ _ ∧ _))

def Method.Scannable (m : Method) : Prop :=
  m.gap.chars ≠ [] ∧ Parameter.Separated m.parameters

/-- If the text is taken for a method, the parenthesis that it is found by is not part of a
literal. -/
def Continuation.Scannable (c : Continuation) : Prop :=
  ∀ head ∈ methodHead? (flatten c.text),
    ∃ before list, c.text = before ++ .char '(' :: list ∧ flatten list = head.parameters

def Field.Scannable (f : Field) : Prop :=
  ∀ i ∈ f.initializer, ∀ c ∈ i.continuations, c.Scannable

namespace Member

mutual

def Scannable : Member → Prop
  | field f => f.Scannable
  | constructor _ => True
  | method m => m.Scannable
  | type _ members _ => AllScannable members

def AllScannable : List Member → Prop
  | [] => True
  | member :: members => member.Scannable ∧ AllScannable members

end

end Member

def Source.Scannable (s : Source) : Prop :=
  Member.AllScannable s.members

end EndpointStubs.Java.Written
