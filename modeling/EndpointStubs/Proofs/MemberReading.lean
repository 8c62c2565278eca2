import EndpointStubs.Proofs.ParameterReading

/-!
# Reading members

Each member that is written in a body is read as far as it goes: a type with its
members, a method with its parameters, and nothing that is reported from a field
or a constructor. The members after it are read as if it were not there.
-/

namespace EndpointStubs.Java

open Written

section Step

variable {following : List Char} {header declaration : List Lexeme}
  {annotations : List AnnotationUse}

theorem members_of_semicolon {text after : List Lexeme}
    (hnext : nextHeader? 0 text = some (header, false, after))
    (hpeel : peelHeader header = (annotations, declaration))
    (htype : typeName? (flatten declaration) = none) :
    members following text =
      ((method? annotations declaration (.char ';' :: after) following).map .method).toList ++
        members following after := by
  rw [members]
  split
  · rename_i heq
    rw [hnext] at heq
    cases heq
  · rename_i heq
    rw [hnext] at heq
    cases heq
    simp only [hpeel, htype]
    rfl
  · rename_i heq
    rw [hnext] at heq
    cases heq

theorem members_of_brace {text rest body after : List Lexeme}
    (hnext : nextHeader? 0 text = some (header, true, rest))
    (hclose : closing '{' '}' 0 rest = some (body, after))
    (hpeel : peelHeader header = (annotations, declaration)) :
    members following text =
      ((typeName? (flatten declaration)).elim
          ((method? annotations declaration (.char '{' :: rest) following).map .method)
          fun name ↦ some (.type annotations name
            (members ('}' :: flatten after ++ following) body))).toList ++
        members following after := by
  rw [members]
  split
  · rename_i heq
    rw [hnext] at heq
    cases heq
  · rename_i heq
    rw [hnext] at heq
    cases heq
  · rename_i heq
    rw [hnext] at heq
    cases heq
    split
    · rename_i heq
      rw [hclose] at heq
      cases heq
    · rename_i heq
      rw [hclose] at heq
      cases heq
      simp only [hpeel]
      cases typeName? (flatten declaration) <;> rfl

theorem members_append (hheader : InHeader 0 header)
    (hpeel : peelHeader header = (annotations, declaration))
    (htype : typeName? (flatten declaration) = none) (block : Option Block) (after : List Lexeme) :
    members following (header ++ (ending block ++ after)) =
      ((method? annotations declaration (ending block ++ after) following).map .method).toList ++
        members following after := by
  cases block with
  | none => exact members_of_semicolon (nextHeader?_semicolon hheader after) hpeel htype
  | some block =>
    have hnext := nextHeader?_brace hheader (block.lexemes ++ .char '}' :: after)
    have hclose := closing_of_closed block.braces after
    have hending : ending (some block) ++ after =
        .char '{' :: (block.lexemes ++ .char '}' :: after) := by
      simp [ending]
    rw [hending, members_of_brace hnext hclose hpeel, htype, Option.elim_none]

theorem members_type {name : String} {body : List Lexeme} (hheader : InHeader 0 header)
    (hpeel : peelHeader header = (annotations, declaration))
    (htype : typeName? (flatten declaration) = some name) (hbody : Closed '{' '}' 0 body)
    (after : List Lexeme) :
    members following (header ++ .char '{' :: (body ++ .char '}' :: after)) =
      .type annotations name (members ('}' :: flatten after ++ following) body) ::
        members following after := by
  have hnext := nextHeader?_brace hheader (body ++ .char '}' :: after)
  have hclose := closing_of_closed hbody after
  rw [members_of_brace hnext hclose hpeel, htype, Option.elim_some]
  rfl

theorem members_of_none {text : List Lexeme} (hnext : nextHeader? 0 text = none) :
    members following text = [] := by
  rw [members]
  split
  · rfl
  · rename_i heq
    rw [hnext] at heq
    cases heq
  · rename_i heq
    rw [hnext] at heq
    cases heq

theorem members_blank {ls : List Lexeme} (h : InHeader 0 ls) : members following ls = [] :=
  members_of_none (nextHeader?_eq_none h)

theorem method?_eq_none (h : methodHead? (flatten declaration) = none) (after : List Lexeme) :
    method? annotations declaration after following = none := by
  rw [method?, h]
  rfl

theorem method?_eq_some {after : List Lexeme} {m : Java.Method}
    (h : method? annotations declaration after following = some m) :
    ∃ head list, methodHead? (flatten declaration) = some head ∧
      parameterList? head.parameters after following = some list ∧
      ⟨annotations, head.returnType, head.name, (listItems list).filterMap parameter?⟩ = m := by
  rw [method?] at h
  obtain ⟨head, hhead, h⟩ := Option.bind_eq_some_iff.1 h
  obtain ⟨list, hlist, h⟩ := Option.bind_eq_some_iff.1 h
  exact ⟨head, list, hhead, hlist, Option.some.inj h⟩

/-- What holds of each method behind its header, of each type if it holds of the members in its
body, and in a text if it does in the text behind some part of it, holds of all members of a
text. -/
theorem forall_mem_members {P : List Lexeme → Java.Member → Prop}
    (hmethod : ∀ {header declaration after : List Lexeme} {annotations : List AnnotationUse}
      {l : Lexeme} {following : List Char} {m : Java.Method},
      peelHeader header = (annotations, declaration) →
        method? annotations declaration (l :: after) following = some m →
          P (header ++ l :: after) (.method m))
    (htype : ∀ {header declaration body after : List Lexeme} {annotations : List AnnotationUse}
      {name : String} {inner : List Java.Member},
      peelHeader header = (annotations, declaration) →
        typeName? (flatten declaration) = some name → (∀ member ∈ inner, P body member) →
          P (header ++ .char '{' :: (body ++ .char '}' :: after)) (.type annotations name inner))
    (hbehind : ∀ {before after : List Lexeme} {member : Java.Member},
      P after member → P (before ++ after) member)
    {text : List Lexeme} : ∀ member ∈ members following text, P text member := by
  fun_induction members following text with
  | case1 => exact List.forall_mem_nil _
  | case2 following text header after hnext annotations declaration hpeel found ih =>
    rw [append_of_nextHeader? hnext]
    refine List.forall_mem_append.2 ⟨fun member hmember ↦ ?_, fun member hmember ↦ ?_⟩
    · dsimp only [found] at hmember
      split at hmember
      · cases hmember
      · rw [Option.mem_toList] at hmember
        obtain ⟨m, hm, rfl⟩ := Option.map_eq_some_iff.1 hmember
        exact hmethod hpeel hm
    · have hafter := @hbehind (header ++ [.char ';']) _ _ (ih member hmember)
      rwa [List.append_assoc] at hafter
  | case3 => exact List.forall_mem_nil _
  | case4 following text header rest hnext body after hclose annotations declaration hpeel found
      ihBody ih =>
    have htext : text = header ++ .char '{' :: (body ++ .char '}' :: after) := by
      rw [append_of_nextHeader? hnext, append_of_closing hclose]
      rfl
    refine List.forall_mem_append.2 ⟨fun member hmember ↦ ?_, fun member hmember ↦ ?_⟩
    · rw [Option.mem_toList] at hmember
      dsimp only [found] at hmember
      split at hmember
      · rename_i hname
        obtain rfl := Option.some.inj hmember
        rw [htext]
        exact htype hpeel hname ihBody
      · obtain ⟨m, hm, rfl⟩ := Option.map_eq_some_iff.1 hmember
        rw [append_of_nextHeader? hnext]
        exact hmethod hpeel hm
    · rw [htext]
      have hafter := @hbehind (header ++ .char '{' :: (body ++ [.char '}'])) _ _ (ih member hmember)
      simpa using hafter

theorem methodFacts_of_not_annotated {outer : String} {m : Java.Method}
    (hm : m.annotations = []) (hparameters : ∀ p ∈ m.parameters, p.annotations = []) :
    methodFacts outer m = [] := by
  rw [methodFacts, hm, List.append_eq_nil_iff]
  refine ⟨rfl, ?_⟩
  rw [List.flatMap_eq_nil_iff]
  intro p hp
  rw [hparameters p hp]
  rfl

/-- Nothing is reported from a method whose parameters are read from a text without annotations. -/
theorem methodFacts_of_list {outer returnType name : String} {list : List Lexeme}
    (h : .char '@' ∉ list) :
    methodFacts outer ⟨[], returnType, name, (listItems list).filterMap parameter?⟩ = [] := by
  refine methodFacts_of_not_annotated rfl fun p hp ↦ ?_
  obtain ⟨item, hitem, hread⟩ := List.mem_filterMap.1 hp
  obtain ⟨x, -, rfl⟩ := Option.map_eq_some_iff.1 hread
  exact peelHeader_fst_eq_nil fun hat ↦
    h (mem_of_mem_commaPieces (List.mem_of_mem_filter hitem) hat)

theorem membersFacts_append (packageName : String) (imports : List String) (outer : String)
    (xs ys : List Java.Member) : membersFacts packageName imports outer (xs ++ ys) =
      membersFacts packageName imports outer xs ++ membersFacts packageName imports outer ys := by
  induction xs with
  | nil => rw [membersFacts, List.nil_append, List.nil_append]
  | cons x xs ih => rw [List.cons_append, membersFacts, membersFacts, ih, List.append_assoc]

end Step

namespace Written

/-- A class of characters without the parenthesis and the equals sign may stand before the
parameters. -/
theorem isBeforeParameters_of_class {p : Char → Bool} (hopen : p '(' = false)
    (hassign : p '=' = false) {c : Char} (h : p c = true) : isBeforeParameters c = true := by
  have hne {d : Char} (hd : p d = false) : c ≠ d := by
    rintro rfl
    rw [hd] at h
    exact Bool.false_ne_true h
  rw [isBeforeParameters, Bool.and_eq_true, bne_iff_ne, bne_iff_ne]
  exact ⟨hne hopen, hne hassign⟩

theorem isBeforeParameters_of_blank {c : Char} (h : Text.isBlank c = true) :
    isBeforeParameters c = true :=
  isBeforeParameters_of_class (by decide) (by decide) h

theorem isBeforeParameters_of_word {c : Char} (h : Text.isWord c = true) :
    isBeforeParameters c = true :=
  isBeforeParameters_of_class (by decide) (by decide) h

theorem isBeforeParameters_of_unbracketed {chars : List Char} (h : Unbracketed (plain chars))
    (hassign : '=' ∉ chars) : ∀ c ∈ chars, isBeforeParameters c = true := by
  intro c hc
  rw [isBeforeParameters, Bool.and_eq_true, bne_iff_ne, bne_iff_ne]
  constructor
  · rintro rfl
    exact h (.char '(') (List.mem_map_of_mem hc) (by decide)
  · rintro rfl
    exact hassign hc

/-! ## Methods -/

namespace Method

variable (m : Method)

theorem isBeforeParameters_signature : ∀ c ∈ m.signature, isBeforeParameters c = true := by
  intro c hc
  rcases List.mem_append.1 hc with hc | hc
  · rcases List.mem_append.1 hc with hc | hc
    · rcases List.mem_append.1 hc with hc | hc
      · exact isBeforeParameters_of_unbracketed m.returnType_unbracketed m.noAssignment c hc
      · exact isBeforeParameters_of_blank (m.gap.blank c hc)
    · exact isBeforeParameters_of_word (m.name.word c hc)
  · exact isBeforeParameters_of_blank (m.nameGap.blank c hc)

theorem balanced_declaration : Balanced m.declaration := by
  have hsignature : Balanced (plain m.signature) := by
    rw [signature, plain_append, plain_append, plain_append]
    exact ((m.returnType_unbracketed.balanced.append m.gap.balanced).append
      m.name.balanced).append m.nameGap.balanced
  exact hsignature.append (balanced_parenthesized (Parameter.parens_list m.blanks m.parameters)
    (Parameter.braces_list m.blanks m.parameters) m.tail_unbracketed.balanced)

/-- The lexemes after the parenthesis that opens the parameter list. -/
def list : List Lexeme :=
  Parameter.listLexemes m.blanks m.parameters ++ .char ')' :: m.tail

theorem flatten_declaration : flatten m.declaration = m.signature ++ '(' :: flatten m.list := by
  rw [declaration, flatten_append, flatten_plain, flatten_cons, list]
  rfl

theorem startsDeclaration : StartsDeclaration m.declaration := by
  have hne : m.returnType ++ m.gap.chars ++ m.name.chars ≠ [] :=
    List.append_ne_nil_of_right_ne_nil _ m.name.ne_nil
  rw [declaration, signature, plain_append _ m.nameGap.chars, List.append_assoc]
  exact startsDeclaration_parenthesis m.starts hne m.nameGap _

theorem typeName?_declaration : typeName? (flatten m.declaration) = none := by
  apply typeName?_eq_none
  rw [flatten_declaration, signature, List.append_assoc, firstWord_append (m.nameGap.head_eq_false
    (fun _ ↦ Text.isWord_eq_false_of_isBlank) '(' (by decide) _)]
  exact m.notType

theorem methodHead?_declaration : methodHead? (flatten m.declaration) =
    if m.gap.chars = [] then none
    else some ⟨.ofList (Text.compact m.returnType), m.name.text, flatten m.list⟩ := by
  have hne : m.returnType ≠ [] := by
    intro hnil
    obtain ⟨c, hc, -⟩ := m.ends
    rw [hnil] at hc
    cases hc
  have hsection : (flatten m.declaration).head? ≠ some '<' := by
    rw [flatten_declaration, signature, List.append_assoc, List.append_assoc, List.append_assoc,
      List.head?_append_of_ne_nil _ hne]
    exact m.noSection
  rw [methodHead?_eq_typedHead? hsection, flatten_declaration]
  exact typedHead?_signature m.ends m.isBeforeParameters_signature _

variable {m}

theorem method?_declaration (h : m.Scannable) (hwhole : ∀ l ∈ m.declaration, l.IsWhole)
    (after : List Lexeme) (following : List Char) :
    method? m.front.annotations m.declaration after following = some m.method := by
  have hlist : ∀ l ∈ m.list, l.IsWhole := fun l hl ↦
    hwhole l (List.mem_append_right _ (List.mem_cons_of_mem _ hl))
  have hclose : closing '(' ')' 0 m.list =
      some (Parameter.listLexemes m.blanks m.parameters, m.tail) :=
    closing_of_closed (Parameter.parens_list m.blanks m.parameters) m.tail
  have hread : parameterList? (flatten m.list) after following =
      some (Parameter.listLexemes m.blanks m.parameters) := by
    rw [parameterList?, lex_flatten hlist, hclose]
    rfl
  have hparameters := Parameter.filterMap_parameter? h.2 fun l hl ↦
    hlist l (List.mem_append_left _ hl)
  rw [method?, methodHead?_declaration, if_neg h.1]
  simp only [Option.bind_eq_bind, Option.bind_some, hread, hparameters]
  rfl

end Method

namespace TypeHead

variable (t : TypeHead)

theorem balanced_declaration : Balanced t.declaration := by
  have hkeyword := unbracketed_plain (by decide) (isWord_of_typeKeyword t.known)
  rw [declaration, plain_append, plain_append]
  exact (hkeyword.balanced.append (t.gap.balanced.append t.name.balanced)).append
    t.tail_unbracketed.balanced

theorem startsDeclaration : StartsDeclaration t.declaration := by
  have hkeyword : ∀ keyword ∈ typeKeywords, keyword.toList ≠ [] ∧
      String.ofList keyword.toList ∉ modifiers := by
    decide
  obtain ⟨hne, hmodifier⟩ := hkeyword t.keyword t.known
  have hstarts := startsDeclaration_plain (isWord_of_typeKeyword t.known) hmodifier
  rw [declaration, plain_append, plain_append, List.append_assoc, List.append_assoc]
  exact startsDeclaration_gap hstarts hne t.gap fun hgap ↦ absurd hgap t.gap_ne_nil

theorem typeName?_declaration : typeName? (flatten t.declaration) = some t.name.text := by
  have hread := typeName?_eq_some t.known t.gap_ne_nil t.name t.tail_apart
  have hflatten : flatten t.declaration =
      t.keyword.toList ++ (t.gap.chars ++ (t.name.chars ++ flatten t.tail)) := by
    simp [declaration]
  rw [hflatten, hread]

end TypeHead

/-- Nothing is reported from the header, whatever stands behind it. -/
structure Silent (following : List Char) (header : List Lexeme) : Prop where
  inHeader : InHeader 0 header
  typeName?_eq_none : typeName? (flatten (peelHeader header).2) = none
  methodFacts_eq_nil : ∀ outer after,
    ∀ m ∈ method? (peelHeader header).1 (peelHeader header).2 after following,
      methodFacts outer m = []

section Silent

variable {packageName : String} {imports : List String} {outer : String} {following : List Char}

theorem membersFacts_silent {header : List Lexeme} (h : Silent following header)
    (block : Option Block) (after : List Lexeme) :
    membersFacts packageName imports outer (members following (header ++ (ending block ++ after))) =
      membersFacts packageName imports outer (members following after) := by
  rw [members_append h.inHeader rfl h.typeName?_eq_none, membersFacts_append]
  have hfacts := h.methodFacts_eq_nil outer (ending block ++ after)
  cases hmethod : method? (peelHeader header).1 (peelHeader header).2 (ending block ++ after)
      following with
  | none => rfl
  | some m =>
    have hnil := hfacts m hmethod
    rw [Option.map_some, Option.toList_some, membersFacts, memberFacts, hnil, membersFacts]
    rfl

theorem Continuation.lexemes_append (c : Continuation) (rest : List Lexeme) :
    c.lexemes ++ rest = ending (some c.block) ++ ((plain c.lead.chars ++ c.text) ++ rest) := by
  simp [lexemes, ending]

/-- What is written after the blocks of an initializer is passed over as well. -/
theorem membersFacts_continuations {cs : List Continuation}
    (hcs : ∀ c ∈ cs, Silent following (plain c.lead.chars ++ c.text)) {header : List Lexeme}
    (h : Silent following header) (after : List Lexeme) :
    membersFacts packageName imports outer
        (members following (header ++ (cs.flatMap Continuation.lexemes ++ (.char ';' :: after)))) =
      membersFacts packageName imports outer (members following after) := by
  induction cs generalizing header with
  | nil => exact membersFacts_silent h none after
  | cons c cs ih =>
    rw [List.flatMap_cons, List.append_assoc, Continuation.lexemes_append,
      membersFacts_silent h]
    exact ih (fun d hd ↦ hcs d (List.mem_cons_of_mem _ hd)) (hcs c List.mem_cons_self)

end Silent

theorem silent_of_methodHead? {following : List Char} {front : Front} {declaration : List Lexeme}
    (hbalanced : Balanced declaration) (hstarts : StartsDeclaration declaration)
    (htype : typeName? (flatten declaration) = none)
    (hhead : methodHead? (flatten declaration) = none) :
    Silent following (front.lexemes ++ declaration) := by
  have hpeel := peelHeader_front front hstarts
  refine ⟨(front.balanced.append hbalanced).inHeader, ?_, ?_⟩
  · rw [hpeel]
    exact htype
  · intro outer after m hm
    rw [hpeel, method?_eq_none hhead] at hm
    cases hm

namespace Constructor

variable (c : Constructor)

theorem balanced_declaration : Balanced c.declaration := by
  have hname := c.name.balanced.append c.gap.balanced
  rw [← plain_append] at hname
  exact hname.append (balanced_parenthesized c.arguments.parens c.arguments.braces
    c.tail_unbracketed.balanced)

theorem flatten_declaration : flatten c.declaration = c.name.chars ++ (c.gap.chars ++ '(' ::
    flatten (c.arguments.lexemes ++ .char ')' :: c.tail)) := by
  simp [declaration, Lexeme.chars]

theorem startsDeclaration : StartsDeclaration c.declaration := by
  have hstarts := startsDeclaration_plain c.name.word c.notModifier
  rw [declaration, plain_append, List.append_assoc]
  exact startsDeclaration_parenthesis hstarts c.name.ne_nil c.gap _

theorem typeName?_declaration : typeName? (flatten c.declaration) = none := by
  apply typeName?_eq_none
  rw [flatten_declaration, firstWord_append (c.gap.head_eq_false
    (fun _ ↦ Text.isWord_eq_false_of_isBlank) '(' (by decide) _), firstWord,
    List.takeWhile_eq_self_iff.2 c.name.word]
  exact c.notType

theorem methodHead?_declaration : methodHead? (flatten c.declaration) = none := by
  have hbefore : ∀ d ∈ c.name.chars ++ c.gap.chars, isBeforeParameters d = true := by
    intro d hd
    rcases List.mem_append.1 hd with hd | hd
    · exact isBeforeParameters_of_word (c.name.word d hd)
    · exact isBeforeParameters_of_blank (c.gap.blank d hd)
  have hsection : (flatten c.declaration).head? ≠ some '<' := by
    obtain ⟨d, ds, hchars, hword⟩ := c.name.exists_cons
    rw [flatten_declaration, hchars]
    intro heq
    cases heq
    exact absurd hword (by decide)
  rw [methodHead?_eq_typedHead? hsection, flatten_declaration, ← List.append_assoc]
  exact typedHead?_name hbefore

theorem silent (following : List Char) : Silent following (c.front.lexemes ++ c.declaration) :=
  silent_of_methodHead? c.balanced_declaration c.startsDeclaration c.typeName?_declaration
    c.methodHead?_declaration

end Constructor

namespace Field

variable (f : Field)

/-- The field up to the first block in its initializer. -/
def declaration : List Lexeme :=
  plain f.head ++ f.initializer.elim [] fun i ↦ .char '=' :: i.text

def continuations : List Continuation :=
  f.initializer.elim [] Initializer.continuations

theorem lexemes_append (after : List Lexeme) : f.lexemes ++ after =
    (f.front.lexemes ++ f.declaration) ++
      (f.continuations.flatMap Continuation.lexemes ++ (.char ';' :: after)) := by
  rw [lexemes, declaration, continuations]
  cases f.initializer <;> simp [Initializer.lexemes]

theorem balanced_declaration : Balanced f.declaration := by
  apply f.head_unbracketed.balanced.append
  cases f.initializer with
  | none => exact balanced_nil
  | some i => exact balanced_cons (by decide) i.balanced

theorem startsDeclaration : StartsDeclaration f.declaration := by
  apply startsDeclaration_append f.starts (plain_ne_nil f.head_ne_nil)
  intro l hl
  cases hinitializer : f.initializer with
  | none =>
    rw [hinitializer] at hl
    cases hl
  | some i =>
    rw [hinitializer] at hl
    cases hl
    decide

/-- After the names of a field comes an equals sign, or nothing. -/
theorem exists_flatten_declaration : ∃ after, flatten f.declaration = f.head ++ after ∧
    ∀ c ∈ after.head?, c = '=' := by
  rw [declaration, flatten_append, flatten_plain]
  refine ⟨_, rfl, ?_⟩
  intro c hc
  cases hinitializer : f.initializer with
  | none =>
    rw [hinitializer] at hc
    cases hc
  | some i =>
    rw [hinitializer] at hc
    cases hc
    rfl

theorem typeName?_declaration : typeName? (flatten f.declaration) = none := by
  obtain ⟨after, hflatten, hafter⟩ := f.exists_flatten_declaration
  have hstop : ∀ c ∈ after.head?, Text.isWord c = false := by
    intro c hc
    rw [hafter c hc]
    decide
  apply typeName?_eq_none
  rw [hflatten, firstWord_append hstop]
  exact f.notType

theorem methodHead?_declaration : methodHead? (flatten f.declaration) = none := by
  obtain ⟨after, hflatten, hafter⟩ := f.exists_flatten_declaration
  have hsection : (flatten f.declaration).head? ≠ some '<' := by
    rw [hflatten, List.head?_append_of_ne_nil _ f.head_ne_nil]
    exact f.noSection
  rw [methodHead?_eq_typedHead? hsection, hflatten]
  exact typedHead?_eq_none
    (isBeforeParameters_of_unbracketed f.head_unbracketed f.noAssignment) hafter

theorem silent (following : List Char) : Silent following (f.front.lexemes ++ f.declaration) :=
  silent_of_methodHead? f.balanced_declaration f.startsDeclaration f.typeName?_declaration
    f.methodHead?_declaration

end Field

end Written

end EndpointStubs.Java
