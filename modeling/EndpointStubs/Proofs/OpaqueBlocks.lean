import EndpointStubs.Proofs.BlockTexts
import EndpointStubs.Proofs.InitializerReading

/-!
# Blocks that are passed over

A block that is not the body of a type is passed over: the outline of a source
is the same with an empty block in its place. This needs two things of the text
before the block. The block must not be the body of a type; and where a header
is taken for a method, the parameter list must end in the header, as it does
unless the parenthesis is one in a literal, which only the text behind a block
of an initializer has in such a place. Nothing is needed of the text behind it.
Of the block itself, it is needed that its brackets are read as they are closed.
Code, closed literals and comments are read so, whatever the literals and the
comments hold; text blocks need not be.
-/

namespace EndpointStubs.Java

open Written

/-- Where a bracket is not closed, what comes behind the text decides where it is. -/
theorem exists_closing_append {opener closer : Char} {text : List Lexeme} {depth : Nat}
    (h : closing opener closer depth text = none) : ∃ opened, ∀ more,
      closing opener closer depth (text ++ more) =
        (closing opener closer opened more).map fun (inside, after) ↦ (text ++ inside, after) := by
  induction text generalizing depth with
  | nil =>
    refine ⟨depth, fun more ↦ ?_⟩
    simp
  | cons l text ih =>
    rw [closing] at h
    split at h
    · rename_i hl
      split at h
      · cases h
      · rename_i hdepth
        obtain ⟨opened, hopened⟩ := ih (Option.map_eq_none_iff.1 h)
        refine ⟨opened, fun more ↦ ?_⟩
        rw [List.cons_append, closing, if_pos hl, if_neg hdepth, hopened, Option.map_map]
        rfl
    · rename_i hl
      obtain ⟨opened, hopened⟩ := ih (Option.map_eq_none_iff.1 h)
      refine ⟨opened, fun more ↦ ?_⟩
      rw [List.cons_append, closing, if_neg hl, hopened, Option.map_map]
      rfl

/-- Inside of parentheses no header ends. -/
theorem nextHeader?_cons_of_ne_zero {depth : Int} (hdepth : depth ≠ 0) (l : Lexeme)
    (rest : List Lexeme) : nextHeader? depth (l :: rest) =
      (nextHeader? (if l = .char '(' then depth + 1 else if l = .char ')' then depth - 1
        else depth) rest).map fun (header, hasBlock, after) ↦ (l :: header, hasBlock, after) := by
  rw [nextHeader?, if_neg fun h ↦ hdepth h.1, if_neg fun h ↦ hdepth h.1]

/-- Where a parenthesis is not closed, the header goes on behind the text. -/
theorem exists_nextHeader?_append {text : List Lexeme} {depth : Nat}
    (h : closing '(' ')' depth text = none) : ∃ opened : Nat, ∀ more,
      nextHeader? (depth + 1 : Nat) (text ++ more) =
        (nextHeader? (opened + 1 : Nat) more).map fun (header, hasBlock, after) ↦
          (text ++ header, hasBlock, after) := by
  induction text generalizing depth with
  | nil =>
    refine ⟨depth, fun more ↦ ?_⟩
    simp
  | cons l text ih =>
    rw [closing] at h
    have hzero : ((depth + 1 : Nat) : Int) ≠ 0 := by omega
    split at h
    · rename_i hl
      split at h
      · cases h
      · rename_i hdepth
        obtain ⟨opened, hopened⟩ := ih (Option.map_eq_none_iff.1 h)
        have hsub : ((depth + 1 : Nat) : Int) - 1 = (depth - 1 + 1 : Nat) := by omega
        refine ⟨opened, fun more ↦ ?_⟩
        rw [List.cons_append, nextHeader?_cons_of_ne_zero hzero, hl, if_neg (by decide),
          if_pos rfl, hsub, hopened, Option.map_map]
        rfl
    · rename_i hl
      obtain ⟨opened, hopened⟩ := ih (Option.map_eq_none_iff.1 h)
      have hadd : (if l = .char '(' then ((depth + 1 : Nat) : Int) + 1 else (depth + 1 : Nat)) =
          ((if l = .char '(' then depth + 1 else depth) + 1 : Nat) := by
        split <;> rfl
      refine ⟨opened, fun more ↦ ?_⟩
      rw [List.cons_append, nextHeader?_cons_of_ne_zero hzero, if_neg hl, hadd, hopened,
        Option.map_map]
      rfl

theorem nextHeader?_append_of_closed {xs : List Lexeme} {k : Nat} (h : Closed '(' ')' k xs)
    (depth : Nat) (ys : List Lexeme) :
    nextHeader? (k + depth + 1 : Nat) (xs ++ ys) =
      (nextHeader? (depth + 1 : Nat) ys).map fun (header, hasBlock, after) ↦
        (xs ++ header, hasBlock, after) := by
  induction xs generalizing k with
  | nil =>
    rw [Closed] at h
    simp [h]
  | cons l xs ih =>
    rw [Closed] at h
    have hzero : ((k + depth + 1 : Nat) : Int) ≠ 0 := by omega
    rw [List.cons_append, nextHeader?_cons_of_ne_zero hzero]
    split at h
    · rename_i hl
      have hsub : ((k + depth + 1 : Nat) : Int) - 1 = (k - 1 + depth + 1 : Nat) := by omega
      rw [hl, if_neg (by decide), if_pos rfl, hsub, ih h.2, Option.map_map]
      rfl
    · rename_i hl
      have hadd : (if l = .char '(' then ((k + depth + 1 : Nat) : Int) + 1
          else (k + depth + 1 : Nat)) =
          ((if l = .char '(' then k + 1 else k) + depth + 1 : Nat) := by
        split <;> omega
      rw [if_neg hl, hadd, ih h, Option.map_map]
      rfl

/-- The parameter list of the method that the header is taken for, if any, ends in the header. -/
def EndsParameters (header : List Lexeme) : Prop :=
  ∀ head ∈ methodHead? (flatten (peelHeader header).2),
    (closing '(' ')' 0 (lex head.parameters)).isSome

instance (header : List Lexeme) : Decidable (EndsParameters header) :=
  inferInstanceAs (Decidable (∀ head ∈ methodHead? _, _))

/-- The header is that of no type, and whatever is declared in it is read from it alone. -/
structure IsOther (header : List Lexeme) : Prop where
  inHeader : InHeader 0 header
  typeName?_eq_none : typeName? (flatten (peelHeader header).2) = none
  endsParameters : EndsParameters header

instance (header : List Lexeme) : Decidable (IsOther header) :=
  decidable_of_iff (InHeader 0 header ∧ typeName? (flatten (peelHeader header).2) = none ∧
      EndsParameters header) <| by
    constructor
    · rintro ⟨hheader, htype, hends⟩
      exact ⟨hheader, htype, hends⟩
    · exact fun h ↦ ⟨h.inHeader, h.typeName?_eq_none, h.endsParameters⟩

/-- Whatever comes behind it, the header is read as that of no type and of no method. -/
def DeclaresNothing (header : List Lexeme) : Prop :=
  ∀ more, typeName? (flatten (peelHeader (header ++ more)).2) = none ∧
    methodHead? (flatten (peelHeader (header ++ more)).2) = none

theorem EndsParameters.method?_eq {header : List Lexeme} (h : EndsParameters header)
    (annotations : List AnnotationUse) (after after' : List Lexeme)
    (following following' : List Char) :
    method? annotations (peelHeader header).2 after following =
      method? annotations (peelHeader header).2 after' following' := by
  rw [method?, method?]
  cases hhead : methodHead? (flatten (peelHeader header).2) with
  | none => rfl
  | some head =>
    obtain ⟨found, hfound⟩ := Option.isSome_iff_exists.1 (h head hhead)
    simp only [Option.bind_eq_bind, Option.bind_some, parameterList?, hfound]
    rfl

/-- What is called in the initializer of a field is read as no method, whatever the arguments are. -/
theorem Written.Field.declaresNothing (f : Field) (text : List Lexeme) :
    DeclaresNothing (f.front.lexemes ++ (plain f.head ++ .char '=' :: text)) := by
  intro more
  have hstarts : StartsDeclaration (plain f.head ++ .char '=' :: (text ++ more)) := by
    apply startsDeclaration_append f.starts (plain_ne_nil f.head_ne_nil)
    intro l hl
    cases hl
    decide
  have hflatten : flatten (plain f.head ++ .char '=' :: (text ++ more)) =
      f.head ++ '=' :: flatten (text ++ more) := by
    rw [flatten_append, flatten_plain, flatten_cons]
    rfl
  have hword : ∀ c ∈ ('=' :: flatten (text ++ more)).head?, Text.isWord c = false := by
    intro c hc
    cases hc
    decide
  have hassign : ∀ c ∈ ('=' :: flatten (text ++ more)).head?, c = '=' := by
    intro c hc
    cases hc
    rfl
  have hsection : (f.head ++ '=' :: flatten (text ++ more)).head? ≠ some '<' := by
    rw [List.head?_append_of_ne_nil _ f.head_ne_nil]
    exact f.noSection
  rw [List.append_assoc, List.append_assoc, List.cons_append, peelHeader_front f.front hstarts,
    hflatten]
  constructor
  · apply typeName?_eq_none
    rw [firstWord_append hword]
    exact f.notType
  · rw [methodHead?_eq_typedHead? hsection]
    exact typedHead?_eq_none
      (isBeforeParameters_of_unbracketed f.head_unbracketed f.noAssignment) hassign

/-- Whole declarations, each of which is read from its header and its body alone. -/
inductive AreReadAlone : List Lexeme → Prop
  | nil : AreReadAlone []
  | other {header rest : List Lexeme} (hother : IsOther header) (block : Option Block)
    (hrest : AreReadAlone rest) : AreReadAlone (header ++ (ending block ++ rest))
  | type {header body trail rest : List Lexeme} (hheader : InHeader 0 header)
    (htype : (typeName? (flatten (peelHeader header).2)).isSome) (hbody : AreReadAlone body)
    (htrail : InHeader 0 trail) (hbraces : Closed '{' '}' 0 (body ++ trail))
    (hrest : AreReadAlone rest) :
    AreReadAlone (header ++ .char '{' :: (body ++ trail ++ .char '}' :: rest))

/-- A brace behind the text opens a block that is not the body of a type. -/
inductive OpensBlock : List Lexeme → Prop
  /-- Behind the header of a method, or of anything else but a type. -/
  | header {header : List Lexeme} (hother : IsOther header) : OpensBlock header
  /-- In parentheses, as in the arguments of a call in the initializer of a field. -/
  | parenthesis {header inside : List Lexeme} (hheader : InHeader 0 header)
    (hopen : closing '(' ')' 0 inside = none)
    (hnothing : DeclaresNothing (header ++ .char '(' :: inside)) :
    OpensBlock (header ++ .char '(' :: inside)
  /-- In another such block. -/
  | block {header inside : List Lexeme} (hother : IsOther header)
    (hopen : closing '{' '}' 0 inside = none) : OpensBlock (header ++ .char '{' :: inside)
  /-- In the body of a type. -/
  | type {header inside : List Lexeme} (hheader : InHeader 0 header)
    (htype : (typeName? (flatten (peelHeader header).2)).isSome)
    (hopen : closing '{' '}' 0 inside = none) (hinside : OpensBlock inside) :
    OpensBlock (header ++ .char '{' :: inside)
  | behind {before text : List Lexeme} (hbefore : AreReadAlone before) (htext : OpensBlock text) :
    OpensBlock (before ++ text)

section Members

variable {following : List Char} {header : List Lexeme}

/-- From a block that is never closed on nothing is read. -/
theorem members_of_open {text rest : List Lexeme}
    (hnext : nextHeader? 0 text = some (header, true, rest))
    (hclose : closing '{' '}' 0 rest = none) : members following text = [] := by
  rw [members]
  split
  · rfl
  · rename_i heq
    rw [hnext] at heq
    cases heq
  · rename_i heq
    rw [hnext] at heq
    cases heq
    split
    · rfl
    · rename_i heq
      rw [hclose] at heq
      cases heq

/-- What a header declares is read in the same way whatever comes behind it. -/
theorem IsOther.members_append (h : IsOther header) (block : Option Block) (after : List Lexeme) :
    members following (header ++ (ending block ++ after)) =
      ((method? (peelHeader header).1 (peelHeader header).2 [] []).map .method).toList ++
        members following after := by
  rw [Java.members_append h.inHeader rfl h.typeName?_eq_none,
    h.endsParameters.method?_eq _ _ [] _ []]

/-- Two headers that declare nothing are passed over alike. -/
theorem members_of_nothing {text text' header' after : List Lexeme} {hasBlock : Bool}
    (hnext : nextHeader? 0 text = some (header, hasBlock, after))
    (hnext' : nextHeader? 0 text' = some (header', hasBlock, after))
    (h : typeName? (flatten (peelHeader header).2) = none ∧
      methodHead? (flatten (peelHeader header).2) = none)
    (h' : typeName? (flatten (peelHeader header').2) = none ∧
      methodHead? (flatten (peelHeader header').2) = none) :
    members following text = members following text' := by
  cases hasBlock with
  | false =>
    rw [members_of_semicolon hnext rfl h.1, method?_eq_none h.2,
      members_of_semicolon hnext' rfl h'.1, method?_eq_none h'.2]
  | true =>
    cases hclose : closing '{' '}' 0 after with
    | none => rw [members_of_open hnext hclose, members_of_open hnext' hclose]
    | some found =>
      rw [members_of_brace hnext hclose rfl, h.1, Option.elim_none, method?_eq_none h.2,
        members_of_brace hnext' hclose rfl, h'.1, Option.elim_none, method?_eq_none h'.2]

end Members

/-- Each of the declarations has its members, whatever follows them. -/
theorem AreReadAlone.exists_members_append {before : List Lexeme} (h : AreReadAlone before) :
    ∃ first, ∀ following rest,
      members following (before ++ rest) = first ++ members following rest := by
  induction h with
  | nil => exact ⟨[], fun _ _ ↦ rfl⟩
  | @other header rest hother block hrest ih =>
    obtain ⟨first, hfirst⟩ := ih
    let declared := method? (peelHeader header).1 (peelHeader header).2 [] []
    refine ⟨(declared.map .method).toList ++ first, fun following more ↦ ?_⟩
    rw [List.append_assoc, List.append_assoc, hother.members_append, hfirst, List.append_assoc]
  | @type header body trail rest hheader htype hbody htrail hbraces hrest ihBody ih =>
    obtain ⟨inner, hinner⟩ := ihBody
    obtain ⟨first, hfirst⟩ := ih
    obtain ⟨name, hname⟩ := Option.isSome_iff_exists.1 htype
    refine ⟨.type (peelHeader header).1 name inner :: first, fun following more ↦ ?_⟩
    rw [List.append_assoc, List.cons_append, List.append_assoc _ _ more, List.cons_append,
      members_type hheader rfl hname hbraces, hinner, members_blank htrail, List.append_nil, hfirst,
      List.cons_append]

/-- A block in a text that is open stays in it as a whole. -/
theorem exists_closing_block {inside : List Lexeme} (hopen : closing '{' '}' 0 inside = none) :
    ∃ opened, ∀ body, Closed '{' '}' 0 body → ∀ after,
      closing '{' '}' 0 (inside ++ .char '{' :: (body ++ .char '}' :: after)) =
        (closing '{' '}' opened after).map fun (rest, outside) ↦
          (inside ++ .char '{' :: (body ++ .char '}' :: rest), outside) := by
  obtain ⟨opened, hopened⟩ := exists_closing_append hopen
  refine ⟨opened, fun body hbody after ↦ ?_⟩
  have hnil : Closed '{' '}' 0 [] := rfl
  have hblock := closing_append_of_closed (closed_bracketed (by decide) hbody hnil) opened after
  rw [Nat.zero_add, List.cons_append, List.append_assoc, List.singleton_append] at hblock
  rw [hopened, hblock, Option.map_map]
  congr 1
  funext x
  simp

theorem exists_nextHeader?_block {header inside : List Lexeme} (hheader : InHeader 0 header)
    (hopen : closing '(' ')' 0 inside = none) :
    ∃ opened : Nat, ∀ body, Closed '(' ')' 0 body → ∀ after,
      nextHeader? 0 (header ++ .char '(' :: inside ++ .char '{' :: (body ++ .char '}' :: after)) =
        (nextHeader? (opened + 1 : Nat) after).map fun (rest, hasBlock, outside) ↦
          (header ++ .char '(' :: inside ++ .char '{' :: (body ++ .char '}' :: rest),
            hasBlock, outside) := by
  obtain ⟨opened, hopened⟩ := exists_nextHeader?_append hopen
  refine ⟨opened, fun body hbody after ↦ ?_⟩
  have hparens : Closed '(' ')' 0 (.char '{' :: (body ++ [.char '}'])) := by
    rw [Closed, if_neg (by decide), if_neg (by decide)]
    exact closed_append_zero hbody (by decide)
  have hblock := nextHeader?_append_of_closed hparens opened after
  rw [Nat.zero_add, List.cons_append, List.append_assoc, List.singleton_append] at hblock
  have hbefore := nextHeader?_append hheader
    (.char '(' :: (inside ++ .char '{' :: (body ++ .char '}' :: after)))
  have hparen (rest : List Lexeme) : nextHeader? 0 (.char '(' :: rest) =
      (nextHeader? (0 + 1 : Nat) rest).map fun (header, hasBlock, after) ↦
        (.char '(' :: header, hasBlock, after) := by
    rw [nextHeader?, if_neg (by decide), if_neg (by decide)]
    rfl
  rw [hparen, hopened, hblock, Option.map_map, Option.map_map, Option.map_map] at hbefore
  rw [List.append_assoc, List.cons_append]
  refine hbefore.trans ?_
  congr 1
  funext x
  simp

/-- What stands in a block is not read. The induction goes from type to type inwards; what is open
around the block ends at the same place with either content. -/
theorem OpensBlock.members_eq {text : List Lexeme} (h : OpensBlock text) {body body' : List Lexeme}
    (hbody : Closed '{' '}' 0 body) (hbody' : Closed '{' '}' 0 body')
    (hparens : Closed '(' ')' 0 body) (hparens' : Closed '(' ')' 0 body')
    (following : List Char) (after : List Lexeme) :
    members following (text ++ .char '{' :: (body ++ .char '}' :: after)) =
      members following (text ++ .char '{' :: (body' ++ .char '}' :: after)) := by
  have hending {body : List Lexeme} (h : Closed '{' '}' 0 body) (after : List Lexeme) :
      .char '{' :: (body ++ .char '}' :: after) = ending (some ⟨body, h⟩) ++ after := by
    simp [ending]
  induction h generalizing following after with
  | @header header hother =>
    rw [hending hbody, hending hbody', hother.members_append, hother.members_append]
  | @parenthesis header inside hheader hopen hnothing =>
    obtain ⟨opened, hopened⟩ := exists_nextHeader?_block hheader hopen
    have hnext := hopened body hparens after
    have hnext' := hopened body' hparens' after
    cases hafter : nextHeader? (opened + 1 : Nat) after with
    | none =>
      rw [hafter] at hnext hnext'
      rw [members_of_none hnext, members_of_none hnext']
    | some found =>
      rw [hafter] at hnext hnext'
      exact members_of_nothing hnext hnext' (hnothing _) (hnothing _)
  | @block header inside hother hopen =>
    obtain ⟨opened, hopened⟩ := exists_closing_block hopen
    have hclose := hopened body hbody after
    have hclose' := hopened body' hbody' after
    have hnext := nextHeader?_brace hother.inHeader
    simp only [List.append_assoc, List.cons_append]
    cases hafter : closing '{' '}' opened after with
    | none =>
      rw [hafter] at hclose hclose'
      rw [members_of_open (hnext _) hclose, members_of_open (hnext _) hclose']
    | some found =>
      rw [hafter] at hclose hclose'
      rw [members_of_brace (hnext _) hclose rfl, members_of_brace (hnext _) hclose' rfl,
        hother.typeName?_eq_none, Option.elim_none, Option.elim_none]
      rw [hother.endsParameters.method?_eq _ _ _ _ following]
  | @type header inside hheader htype hopen hinside ih =>
    obtain ⟨opened, hopened⟩ := exists_closing_block hopen
    obtain ⟨name, hname⟩ := Option.isSome_iff_exists.1 htype
    have hclose := hopened body hbody after
    have hclose' := hopened body' hbody' after
    have hnext := nextHeader?_brace hheader
    simp only [List.append_assoc, List.cons_append]
    cases hafter : closing '{' '}' opened after with
    | none =>
      rw [hafter] at hclose hclose'
      rw [members_of_open (hnext _) hclose, members_of_open (hnext _) hclose']
    | some found =>
      rw [hafter] at hclose hclose'
      rw [members_of_brace (hnext _) hclose rfl, members_of_brace (hnext _) hclose' rfl, hname,
        Option.elim_some, Option.elim_some, ih]
  | @behind before text hbefore htext ih =>
    obtain ⟨first, hfirst⟩ := hbefore.exists_members_append
    rw [List.append_assoc, List.append_assoc, hfirst, hfirst, ih]

/-- A brace behind the text is code, and opens a block that is not the body of a type. -/
structure IsBeforeBlock (before : List Char) : Prop where
  isCodeAfter : IsCodeAfter before '{'
  opensBlock : OpensBlock (lex (stripComments before))

/-- As the text is read, a brace behind it is code and the one that closes the block. The words that
start declarations of the package and of imports start no line in it. -/
structure IsBlockText (body : List Char) : Prop where
  isCodeAfter : IsCodeAfter body '}'
  braces : Closed '{' '}' 0 (lex (stripComments body))
  parens : Closed '(' ')' 0 (lex (stripComments body))
  quiet : Quiet (stripComments body)

theorem isBlockText_nil : IsBlockText [] := by
  have hnil : passages [] = [] := by rw [passages]
  have hstrip : stripComments [] = [] := by rw [stripComments, hnil, List.flatMap_nil]
  have hlex : lex [] = [] := by rw [lex]
  have hcode : passages ['}'] = [.code '}'] := by
    rw [passages_code (by decide) fun heq ↦ absurd heq (by decide), hnil]
  refine ⟨?_, ?_, ?_, ?_⟩
  · rw [IsCodeAfter, List.nil_append, hcode, hnil, List.nil_append]
  · rw [hstrip, hlex]
    rfl
  · rw [hstrip, hlex]
    rfl
  · rw [hstrip]
    exact List.forall_mem_nil _

section Source

variable {before body : List Char} (hbefore : IsBeforeBlock before) (hbody : IsBlockText body)
  (after : List Char)
include hbefore hbody

theorem stripComments_block : stripComments (before ++ '{' :: (body ++ '}' :: after)) =
    stripComments before ++ '{' :: (stripComments body ++ '}' :: stripComments after) := by
  rw [hbefore.isCodeAfter.stripComments_append (by decide) (by decide),
    hbody.isCodeAfter.stripComments_append (by decide) (by decide)]

theorem lex_stripComments_block : lex (stripComments (before ++ '{' :: (body ++ '}' :: after))) =
    lex (stripComments before) ++ .char '{' ::
      (lex (stripComments body) ++ .char '}' :: lex (stripComments after)) := by
  rw [hbefore.isCodeAfter.lex_stripComments_append (by decide) (by decide),
    hbody.isCodeAfter.lex_stripComments_append (by decide) (by decide)]

end Source

/-- All such blocks are alike. -/
theorem IsBeforeBlock.ofText_eq {before body : List Char} (hbefore : IsBeforeBlock before)
    (hbody : IsBlockText body) (after : List Char) :
    Outline.ofText (before ++ '{' :: (body ++ '}' :: after)) =
      Outline.ofText (before ++ '{' :: '}' :: after) := by
  have hempty := isBlockText_nil
  have hstrip := stripComments_block hbefore hempty after
  have hlex := lex_stripComments_block hbefore hempty after
  have hmembers := hbefore.opensBlock.members_eq hbody.braces hempty.braces hbody.parens
    hempty.parens [] (lex (stripComments after))
  rw [← lex_stripComments_block hbefore hbody, ← hlex] at hmembers
  rw [List.nil_append] at hstrip hmembers
  have hpackage : packageName (stripComments (before ++ '{' :: (body ++ '}' :: after))) =
      packageName (stripComments (before ++ '{' :: '}' :: after)) := by
    rw [stripComments_block hbefore hbody, packageName_block hbody.quiet, hstrip,
      packageName_block hempty.quiet]
  have himports : imports (stripComments (before ++ '{' :: (body ++ '}' :: after))) =
      imports (stripComments (before ++ '{' :: '}' :: after)) := by
    rw [stripComments_block hbefore hbody, imports_block hbody.quiet, hstrip,
      imports_block hempty.quiet]
  rw [Outline.ofText, Outline.ofText, hpackage, himports, hmembers]

/-! ## Written blocks -/

/-- A prefix of passages that are kept apart is kept apart. -/
theorem Passage.Apart.of_append {ps qs : List Passage} (h : Apart (ps ++ qs)) : Apart ps := by
  induction ps with
  | nil => trivial
  | cons p ps ih =>
    have hhead (c : Char) (hc : (ps.flatMap chars).head? = some c) :
        ((ps ++ qs).flatMap chars).head? = some c := by
      rw [List.flatMap_append, List.head?_append, hc, Option.some_or]
    cases p with
    | code c =>
      obtain ⟨hquote, hslash, hrest⟩ := h
      exact ⟨hquote, fun heq ↦ ⟨fun hc ↦ (hslash heq).1 (hhead _ hc),
        fun hc ↦ (hslash heq).2 (hhead _ hc)⟩, ih hrest⟩
    | literal text => exact ⟨h.1, ih h.2⟩
    | lineComment text =>
      have hend : (ps ++ qs).flatMap chars = [] ∨ ((ps ++ qs).flatMap chars).head? = some '\n' :=
        h.2.1
      refine ⟨h.1, ?_, ih h.2.2⟩
      cases hps : ps.flatMap chars with
      | nil => exact .inl rfl
      | cons c cs =>
        rw [List.flatMap_append, hps] at hend
        rcases hend with hnil | hnewline
        · cases hnil
        · exact .inr hnewline
    | blockComment text => exact ⟨h.1, ih h.2⟩

namespace Written

/-- A block as it is written: code, literals that end on their line, and comments, both of which may
hold anything. Its brackets are those of the code. -/
structure BlockForm where
  passages : List Passage
  apart : Passage.Apart (passages ++ [.code '}'])
  braces : Closed '{' '}' 0 (passages.flatMap Passage.lexemes)
  parens : Closed '(' ')' 0 (passages.flatMap Passage.lexemes)
  quiet : Quiet (passages.flatMap Passage.kept)

def BlockForm.text (block : BlockForm) : List Char :=
  block.passages.flatMap Passage.chars

/-- A block that is written so is read so. -/
theorem BlockForm.isBlockText (block : BlockForm) : IsBlockText block.text := by
  have hread : Java.passages block.text = block.passages :=
    passages_flatMap_chars block.apart.of_append
  refine ⟨?_, ?_, ?_, ?_⟩
  · have hcode := passages_flatMap_chars block.apart
    rw [List.flatMap_append] at hcode
    rw [IsCodeAfter, hread]
    exact hcode
  · rw [lex_stripComments, hread]
    exact block.braces
  · rw [lex_stripComments, hread]
    exact block.parens
  · rw [stripComments, hread]
    exact block.quiet

end Written

end EndpointStubs.Java
