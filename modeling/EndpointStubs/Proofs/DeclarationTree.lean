import EndpointStubs.Proofs.DeclaredMethods
import EndpointStubs.Proofs.MethodForms
import EndpointStubs.Proofs.SourceReading

/-!
# Trees of declarations

A source as a tree of types and methods, with anything else between them:
package and import declarations, fields, constructors, initializers and the
constants of enumerations. Whatever that is, it is passed over up to the
semicolon or the block that ends it, and the methods behind it are read as if it
were not there. So each method of the tree is read in the type that it is
declared in.
-/

namespace EndpointStubs.Java.Written

/-- Text without a semicolon or a brace outside of its parentheses. -/
structure HeaderText where
  lexemes : List Lexeme
  balanced : Balanced lexemes

/-- The components of a record, and what stands behind them; or the first parentheses elsewhere
before a body. -/
structure Components where
  inside : Enclosed
  tail : HeaderText

def Components.lexemes (c : Components) : List Lexeme :=
  .char '(' :: (c.inside.lexemes ++ .char ')' :: c.tail.lexemes)

/-- What stands before the body of a type. -/
structure TypeOpening where
  head : TypeHead
  components : Option Components

namespace TypeOpening

def declaration (opening : TypeOpening) : List Lexeme :=
  opening.head.declaration ++ opening.components.elim [] Components.lexemes

def lexemes (opening : TypeOpening) : List Lexeme :=
  opening.head.front.lexemes ++ opening.declaration

end TypeOpening

/-- Any text up to a semicolon or through a block. -/
structure OtherText where
  header : HeaderText
  block : Option Block

def OtherText.lexemes (other : OtherText) : List Lexeme :=
  other.header.lexemes ++ ending other.block

inductive Declaration where
  | method (m : MethodForm)
  | type (opening : TypeOpening) (declarations : List Declaration) (trail : HeaderText)
  | other (text : OtherText)

/-- A method with the names of the types around it, from the outside. -/
structure PlacedMethod where
  types : List String
  method : MethodForm

namespace Declaration

mutual

def lexemes : Declaration → List Lexeme
  | method m => m.lexemes
  | type opening declarations trail =>
    opening.lexemes ++ .char '{' :: (listLexemes declarations ++ trail.lexemes ++ [.char '}'])
  | other text => text.lexemes

def listLexemes : List Declaration → List Lexeme
  | [] => []
  | declaration :: declarations => declaration.lexemes ++ listLexemes declarations

end

mutual

/-- The methods of a declaration below types with the given names. -/
def methods (around : List String) : Declaration → List PlacedMethod
  | method m => [⟨around, m⟩]
  | type opening declarations _ => listMethods (around ++ [opening.head.name.text]) declarations
  | other _ => []

def listMethods (around : List String) : List Declaration → List PlacedMethod
  | [] => []
  | declaration :: declarations => declaration.methods around ++ listMethods around declarations

end

end Declaration

structure CompilationUnit where
  declarations : List Declaration
  trail : HeaderText

namespace CompilationUnit

def lexemes (u : CompilationUnit) : List Lexeme :=
  Declaration.listLexemes u.declarations ++ u.trail.lexemes

/-- The methods that are declared in types. -/
def methods (u : CompilationUnit) : List PlacedMethod :=
  (Declaration.listMethods [] u.declarations).filter (·.types ≠ [])

def packageName (u : CompilationUnit) : String :=
  Java.packageName (flatten u.lexemes)

end CompilationUnit

theorem Components.balanced (c : Components) : Balanced c.lexemes :=
  balanced_parenthesized c.inside.parens c.inside.braces c.tail.balanced

namespace TypeOpening

variable (opening : TypeOpening)

theorem balanced_declaration : Balanced opening.declaration := by
  apply opening.head.balanced_declaration.append
  cases opening.components with
  | none => exact balanced_nil
  | some c => exact c.balanced

/-- If there are components, they start with a parenthesis. -/
theorem head_components :
    ∀ l ∈ (opening.components.elim [] Components.lexemes).head?, l = .char '(' := by
  cases opening.components with
  | none => nofun
  | some c =>
    intro l hl
    cases hl
    rfl

theorem startsDeclaration : StartsDeclaration opening.declaration := by
  have hne : opening.head.declaration ≠ [] :=
    List.append_ne_nil_of_left_ne_nil (plain_ne_nil (List.append_ne_nil_of_right_ne_nil _
      (List.append_ne_nil_of_right_ne_nil _ opening.head.name.ne_nil))) _
  refine startsDeclaration_append opening.head.startsDeclaration hne fun l hl ↦ ?_
  rw [opening.head_components l hl]
  decide

theorem typeName?_declaration :
    typeName? (flatten opening.declaration) = some opening.head.name.text := by
  have htail : ∀ c ∈ (flatten opening.head.tail ++
      flatten (opening.components.elim [] Components.lexemes)).head?, Text.isWord c = false := by
    intro c hc
    rw [List.head?_append] at hc
    cases htail : (flatten opening.head.tail).head? with
    | some d =>
      rw [htail, Option.some_or] at hc
      cases hc
      exact opening.head.tail_apart c htail
    | none =>
      rw [htail, Option.none_or] at hc
      cases hcomponents : opening.components with
      | none =>
        rw [hcomponents] at hc
        cases hc
      | some components =>
        rw [hcomponents] at hc
        cases hc
        decide
  have hread := typeName?_eq_some opening.head.known opening.head.gap_ne_nil opening.head.name htail
  have hflatten : flatten opening.declaration = opening.head.keyword.toList ++
      (opening.head.gap.chars ++ (opening.head.name.chars ++ (flatten opening.head.tail ++
        flatten (opening.components.elim [] Components.lexemes)))) := by
    simp [declaration, TypeHead.declaration]
  rw [hflatten, hread]

/-- A type is read with what stands between its braces as its members. -/
theorem members_append {body : List Lexeme} (hbody : Closed '{' '}' 0 body) (following : List Char)
    (after : List Lexeme) :
    Java.members following (opening.lexemes ++ .char '{' :: (body ++ .char '}' :: after)) =
      .type opening.head.front.annotations opening.head.name.text
          (Java.members ('}' :: flatten after ++ following) body) ::
        Java.members following after := by
  exact members_type (opening.head.front.balanced.append opening.balanced_declaration).inHeader
    (peelHeader_front opening.head.front opening.startsDeclaration) opening.typeName?_declaration
    hbody after

end TypeOpening

/-! ## Reading the tree -/

/-- Whatever a header with its end is read as, what is behind it is read on its own. -/
theorem OtherText.exists_members_append (other : OtherText) (following : List Char)
    (after : List Lexeme) :
    ∃ first, Java.members following (other.lexemes ++ after) =
      first ++ Java.members following after := by
  have hheader := other.header.balanced.inHeader
  cases hblock : other.block with
  | none =>
    have hlexemes : other.lexemes ++ after = other.header.lexemes ++ .char ';' :: after := by
      simp [lexemes, hblock, ending]
    have hnext := nextHeader?_semicolon hheader after
    rw [hlexemes, members]
    split
    · rename_i heq
      rw [hnext] at heq
      cases heq
    · rename_i heq
      rw [hnext] at heq
      cases heq
      exact ⟨_, rfl⟩
    · rename_i heq
      rw [hnext] at heq
      cases heq
  | some block =>
    have hlexemes : other.lexemes ++ after =
        other.header.lexemes ++ .char '{' :: (block.lexemes ++ .char '}' :: after) := by
      simp [lexemes, hblock, ending]
    rw [hlexemes]
    exact ⟨_, members_of_brace (nextHeader?_brace hheader _) (closing_of_closed block.braces after)
      rfl⟩

namespace MethodForm

theorem braces_lexemes (m : MethodForm) : Closed '{' '}' 0 m.lexemes :=
  closed_append_zero (m.front.balanced.append m.balanced_declaration).braces
    (Member.braces_ending m.block)

theorem members_append (m : MethodForm) (following : List Char) (after : List Lexeme) :
    Java.members following (m.lexemes ++ after) =
      ((method? m.front.annotations m.declaration (ending m.block ++ after) following).map
          .method).toList ++
        Java.members following after := by
  rw [lexemes, List.append_assoc]
  exact Java.members_append (m.front.balanced.append m.balanced_declaration).inHeader
    (peelHeader_front m.front m.startsDeclaration) m.typeName?_declaration m.block after

end MethodForm

namespace Declaration

mutual

theorem braces_lexemes (declaration : Declaration) : Closed '{' '}' 0 declaration.lexemes := by
  cases declaration with
  | method m =>
    rw [lexemes]
    exact m.braces_lexemes
  | type opening declarations trail =>
    rw [lexemes]
    exact closed_append_zero
      (opening.head.front.balanced.append opening.balanced_declaration).braces
      (closed_bracketed (by decide)
        (closed_append_zero (braces_listLexemes declarations) trail.balanced.braces) rfl)
  | other text =>
    rw [lexemes]
    exact closed_append_zero text.header.balanced.braces (Member.braces_ending text.block)

theorem braces_listLexemes (declarations : List Declaration) :
    Closed '{' '}' 0 (listLexemes declarations) := by
  cases declarations with
  | nil => rfl
  | cons declaration declarations =>
    rw [listLexemes]
    exact closed_append_zero (braces_lexemes declaration) (braces_listLexemes declarations)

end

theorem members_type_append (opening : TypeOpening) (declarations : List Declaration)
    (trail : HeaderText) (following : List Char) (after : List Lexeme) :
    Java.members following ((type opening declarations trail).lexemes ++ after) =
      .type opening.head.front.annotations opening.head.name.text
          (Java.members ('}' :: flatten after ++ following)
            (listLexemes declarations ++ trail.lexemes)) ::
        Java.members following after := by
  have hlexemes : (type opening declarations trail).lexemes ++ after =
      opening.lexemes ++ .char '{' :: ((listLexemes declarations ++ trail.lexemes) ++
        .char '}' :: after) := by
    simp [lexemes]
  rw [hlexemes, opening.members_append
    (closed_append_zero (braces_listLexemes declarations) trail.balanced.braces)]

/-- What is written behind a declaration is read on its own. -/
theorem exists_members_append (declaration : Declaration) (following : List Char)
    (after : List Lexeme) :
    ∃ first, Java.members following (declaration.lexemes ++ after) =
      first ++ Java.members following after := by
  cases declaration with
  | method m =>
    rw [lexemes]
    exact ⟨_, m.members_append following after⟩
  | type opening declarations trail =>
    exact ⟨[_], members_type_append opening declarations trail following after⟩
  | other text =>
    rw [lexemes]
    exact text.exists_members_append following after

section Methods

variable {x : PlacedMethod} {m : Java.Method}

mutual

theorem mem_listMethods_members {declaration : Declaration}
    (hseparated : Formal.Separated x.method.formals) (hread : x.method.read? = some m)
    (hwhole : ∀ l ∈ declaration.lexemes, l.IsWhole) {around : List String}
    (hx : x ∈ declaration.methods around) (packageName : String) (following : List Char)
    (after : List Lexeme) :
    (x.types.foldl qualify packageName, m) ∈
      Java.Member.listMethods (around.foldl qualify packageName)
        (Java.members following (declaration.lexemes ++ after)) := by
  cases declaration with
  | method form =>
    rw [lexemes] at hwhole ⊢
    rw [methods, List.mem_singleton] at hx
    subst hx
    have hdeclaration : ∀ l ∈ form.declaration, l.IsWhole := fun l hl ↦
      hwhole l (List.mem_append_left _ (List.mem_append_right _ hl))
    rw [form.members_append, form.method?_declaration hseparated hdeclaration, hread,
      Java.Member.listMethods_append]
    exact List.mem_append_left _ List.mem_cons_self
  | type opening declarations trail =>
    have hwhole : ∀ l ∈ listLexemes declarations, l.IsWhole := by
      intro l hl
      apply hwhole
      rw [lexemes]
      simp [hl]
    rw [methods] at hx
    have hmem := mem_listMethods_listMembers hseparated hread hwhole hx packageName
      ('}' :: flatten after ++ following) trail.lexemes
    rw [List.foldl_append] at hmem
    rw [members_type_append, Java.Member.listMethods, Java.Member.methods]
    exact List.mem_append_left _ hmem
  | other text =>
    rw [methods] at hx
    cases hx

/-- Each method of the tree is found in its type. -/
theorem mem_listMethods_listMembers {declarations : List Declaration}
    (hseparated : Formal.Separated x.method.formals) (hread : x.method.read? = some m)
    (hwhole : ∀ l ∈ listLexemes declarations, l.IsWhole) {around : List String}
    (hx : x ∈ listMethods around declarations) (packageName : String) (following : List Char)
    (after : List Lexeme) :
    (x.types.foldl qualify packageName, m) ∈
      Java.Member.listMethods (around.foldl qualify packageName)
        (Java.members following (listLexemes declarations ++ after)) := by
  cases declarations with
  | nil =>
    rw [listMethods] at hx
    cases hx
  | cons declaration declarations =>
    rw [listMethods, List.mem_append] at hx
    rw [listLexemes] at hwhole ⊢
    rw [List.forall_mem_append] at hwhole
    rw [List.append_assoc]
    rcases hx with hx | hx
    · exact mem_listMethods_members hseparated hread hwhole.1 hx packageName following _
    · obtain ⟨first, hfirst⟩ := declaration.exists_members_append following
        (listLexemes declarations ++ after)
      rw [hfirst, Java.Member.listMethods_append]
      exact List.mem_append_right _
        (mem_listMethods_listMembers hseparated hread hwhole.2 hx packageName following after)

end

end Methods

end Declaration

theorem Identifier.isName (name : Identifier) : IsName name.text :=
  isName_ofList (List.isEmpty_eq_false_iff.2 name.ne_nil) name.word

namespace Declaration

variable {x : PlacedMethod}

mutual

theorem isName_of_mem_methods {declaration : Declaration} {around : List String}
    (hx : x ∈ declaration.methods around) : ∀ name ∈ x.types, name ∈ around ∨ IsName name := by
  cases declaration with
  | method m =>
    rw [methods, List.mem_singleton] at hx
    subst hx
    exact fun name hname ↦ .inl hname
  | type opening declarations trail =>
    rw [methods] at hx
    intro name hname
    rcases isName_of_mem_listMethods hx name hname with hname | hname
    · rcases List.mem_append.1 hname with hname | hname
      · exact .inl hname
      · rw [List.mem_singleton.1 hname]
        exact .inr opening.head.name.isName
    · exact .inr hname
  | other text =>
    rw [methods] at hx
    cases hx

theorem isName_of_mem_listMethods {declarations : List Declaration} {around : List String}
    (hx : x ∈ listMethods around declarations) :
    ∀ name ∈ x.types, name ∈ around ∨ IsName name := by
  cases declarations with
  | nil =>
    rw [listMethods] at hx
    cases hx
  | cons declaration declarations =>
    rw [listMethods, List.mem_append] at hx
    exact hx.elim isName_of_mem_methods isName_of_mem_listMethods

end

end Declaration

theorem length_lt_qualify (outer : String) {name : String} (h : name ≠ "") :
    outer.length < (qualify outer name).length := by
  have hname : 0 < name.length :=
    Nat.pos_of_ne_zero fun hzero ↦ h (String.length_eq_zero_iff.1 hzero)
  rw [qualify]
  split
  · rename_i hempty
    rw [String.isEmpty_iff.1 hempty]
    exact hname
  · simp only [String.length_append]
    omega

theorem length_le_foldl_qualify {names : List String} (h : ∀ name ∈ names, name ≠ "")
    (outer : String) : outer.length ≤ (names.foldl qualify outer).length := by
  induction names generalizing outer with
  | nil => exact Nat.le_refl _
  | cons name names ih =>
    obtain ⟨hname, hnames⟩ := List.forall_mem_cons.1 h
    exact (length_lt_qualify outer hname).le.trans (ih hnames _)

/-- A type below a package is not the package. -/
theorem foldl_qualify_ne {names : List String} (hne : names ≠ []) (h : ∀ name ∈ names, name ≠ "")
    (outer : String) : names.foldl qualify outer ≠ outer := by
  obtain ⟨name, names, rfl⟩ := List.exists_cons_of_ne_nil hne
  obtain ⟨hname, hnames⟩ := List.forall_mem_cons.1 h
  have hlength := (length_lt_qualify outer hname).trans_le (length_le_foldl_qualify hnames _)
  intro heq
  rw [List.foldl_cons] at heq
  rw [heq] at hlength
  exact Nat.lt_irrefl _ hlength

/-- Outside of types there are only the methods of the package itself. -/
theorem mem_listMethods_filter_isType {outer : String} {members : List Java.Member}
    {x : String × Java.Method} (hne : x.1 ≠ outer)
    (h : x ∈ Java.Member.listMethods outer members) :
    x ∈ Java.Member.listMethods outer (members.filter Java.Member.isType) := by
  obtain ⟨member, hmember, hx⟩ := Java.Member.mem_listMethods_iff.1 h
  refine Java.Member.mem_listMethods_iff.2 ⟨member, List.mem_filter.2 ⟨hmember, ?_⟩, hx⟩
  cases member with
  | method m =>
    rw [Java.Member.methods, List.mem_singleton] at hx
    exact absurd (congrArg Prod.fst hx) hne
  | type annotations name inner => rfl

namespace CompilationUnit

variable {u : CompilationUnit} {x : PlacedMethod} (hx : x ∈ u.methods)
include hx

theorem types_ne_nil : x.types ≠ [] := by
  have hne := (List.mem_filter.1 hx).2
  rwa [decide_eq_true_eq] at hne

theorem isName_types : ∀ name ∈ x.types, IsName name := fun name hname ↦
  (Declaration.isName_of_mem_listMethods (List.mem_filter.1 hx).1 name hname).resolve_left
    List.not_mem_nil

/-- Whatever the layout, each method that is read is one of those the source declares. -/
theorem mem_declaredMethods (layout : Layout u.lexemes)
    (hseparated : Formal.Separated x.method.formals) {m : Java.Method}
    (hread : x.method.read? = some m) :
    (x.types.foldl qualify u.packageName, m) ∈ declaredMethods (.ofList layout.text) := by
  have hwhole : ∀ l ∈ Declaration.listLexemes u.declarations, l.IsWhole := fun l hl ↦
    layout.isWhole l (List.mem_append_left _ hl)
  have hmem := Declaration.mem_listMethods_listMembers hseparated hread hwhole
    (List.mem_filter.1 hx).1 u.packageName [] u.trail.lexemes
  -- Only types are kept at the top, so that the methods in them have to be told from others there.
  have hne : x.types.foldl qualify u.packageName ≠ u.packageName :=
    foldl_qualify_ne (types_ne_nil hx) (fun name hname ↦ (isName_types hx name hname).1) _
  rw [declaredMethods, Outline.ofText, String.toList_ofList, layout.stripComments_text,
    lex_flatten layout.isWhole]
  exact mem_listMethods_filter_isType hne hmem

end CompilationUnit

end EndpointStubs.Java.Written
