import EndpointStubs.Proofs.MemberReading
import EndpointStubs.Proofs.WrittenTypes

/-!
# Written methods

A method as it is written, with any return type and type parameters, and with
all forms of parameters: of variable arity, with brackets behind the name, or
the receiver that is only written to be annotated. What is read of a method is
its name and those of its parameters that have no brackets behind their names,
each with its type; the receiver is one of them.
-/

namespace EndpointStubs.Java.Written

structure Formal where
  front : Front
  type : TypeForm
  gap : Gap
  name : Identifier
  trail : Gap
  /-- The pairs of brackets behind the name, with the blanks behind each bracket. -/
  brackets : List (Gap × Gap)
  isType : IsType type.tokens
  starts : StartsDeclaration (plain type.chars ++ plain (gap.chars ++ name.chars))
  ends : EndsType type.chars gap

namespace Formal

/-- The parameter without the brackets behind its name. -/
def unbracketed (p : Formal) : Parameter where
  front := p.front
  type := plain p.type.chars
  gap := p.gap
  name := p.name
  trail := p.trail
  starts := p.starts
  ends := by
    rw [flatten_plain]
    exact p.ends
  parens := (TypeForm.unbracketed p.isType).balanced.parens
  braces := (TypeForm.unbracketed p.isType).balanced.braces
  noSplit := by
    rw [← noSplit_plain_removeBlanks, TypeForm.removeBlanks_chars p.isType]
    exact p.isType.noSplit
  levels_eq := by
    rw [← levels_plain_removeBlanks, TypeForm.removeBlanks_chars p.isType]
    exact p.isType.levels_eq

def bracketLexemes (p : Formal) : List Lexeme :=
  p.brackets.flatMap fun x ↦
    .char '[' :: (plain x.1.chars ++ .char ']' :: plain x.2.chars)

def lexemes (p : Formal) : List Lexeme :=
  p.unbracketed.lexemes ++ p.bracketLexemes

/-- The type that is declared, with the brackets behind the name. -/
def declaredType (p : Formal) : List TypeToken :=
  p.type.tokens ++ p.brackets.flatMap fun _ ↦ [.mark '[', .mark ']']

/-- It is written only to be annotated, and is no parameter of the method. -/
def isReceiver (p : Formal) : Bool :=
  p.name.text = "this"

/-- What is read of a parameter. -/
def read? (p : Formal) : Option Java.Parameter :=
  if p.brackets = [] then some p.unbracketed.parameter else none

theorem bracketLexemes_eq_nil {p : Formal} (h : p.brackets = []) : p.bracketLexemes = [] := by
  rw [bracketLexemes, h, List.flatMap_nil]

/-- A text with brackets behind a name ends in a bracket. -/
theorem exists_bracketLexemes {p : Formal} (h : p.brackets ≠ []) :
    (∃ inside, p.bracketLexemes = .char '[' :: inside) ∧
      ∃ before, ∃ gap : Gap, p.bracketLexemes = before ++ .char ']' :: plain gap.chars := by
  constructor
  · obtain ⟨x, xs, hbrackets⟩ := List.exists_cons_of_ne_nil h
    rw [bracketLexemes, hbrackets, List.flatMap_cons]
    exact ⟨_, rfl⟩
  · rcases List.eq_nil_or_concat p.brackets with hnil | ⟨xs, x, hbrackets⟩
    · exact absurd hnil h
    · rw [bracketLexemes, hbrackets, List.concat_eq_append, List.flatMap_append,
        List.flatMap_singleton]
      exact ⟨_ ++ .char '[' :: plain x.1.chars, x.2, by rw [List.append_assoc]; rfl⟩

/-- What ends in a mark does not end in a name. -/
theorem typeAndName?_eq_none {text : List Char} {c : Char} (hblank : Text.isBlank c = false)
    (hword : Text.isWord c = false) (gap : Gap) :
    typeAndName? (text ++ c :: gap.chars) = none := by
  obtain ⟨rest, hrest⟩ :
      ∃ rest, Text.trimStart (text ++ c :: gap.chars) = rest ++ c :: gap.chars := by
    induction text with
    | nil => exact ⟨[], List.dropWhile_cons_of_neg (by rw [hblank]; exact Bool.false_ne_true)⟩
    | cons d text ih =>
      rw [List.cons_append, Text.trimStart, List.dropWhile_cons]
      split
      · exact ih
      · exact ⟨d :: text, rfl⟩
  have hlast {p : Char → Bool} (hp : p c = false) : ∀ d ∈ (rest ++ [c]).getLast?, p d = false := by
    intro d hd
    rw [List.getLast?_concat] at hd
    cases hd
    exact hp
  have htrim : Text.trim (text ++ c :: gap.chars) = rest ++ [c] := by
    rw [Text.trim, hrest, List.append_cons, Text.trimEnd_append_stop (hlast hblank) gap.blank]
  have hsplit := Text.splitTrailing_append_stop (hlast hword) (fun _ h ↦ absurd h List.not_mem_nil)
  rw [List.append_nil] at hsplit
  rw [typeAndName?, htrim, hsplit]
  rfl

theorem parameter?_lexemes (p : Formal) : parameter? p.lexemes = p.read? := by
  rw [read?]
  split
  · rename_i hnil
    rw [lexemes, bracketLexemes_eq_nil hnil, List.append_nil]
    exact p.unbracketed.parameter?_lexemes (TypeForm.isWhole p.isType)
  · rename_i hne
    obtain ⟨⟨inside, hinside⟩, before, gap, hend⟩ := exists_bracketLexemes hne
    have hstarts : StartsDeclaration (p.unbracketed.declaration ++ p.bracketLexemes) := by
      refine startsDeclaration_append p.unbracketed.startsDeclaration ?_ ?_
      · rw [Parameter.declaration, plain_append, ← List.append_assoc]
        exact List.append_ne_nil_of_left_ne_nil
          (List.append_ne_nil_of_right_ne_nil _ (plain_ne_nil p.name.ne_nil)) _
      · intro l hl
        rw [hinside] at hl
        cases hl
        decide
    rw [parameter?, lexemes, Parameter.lexemes, List.append_assoc,
      peelHeader_front p.unbracketed.front hstarts]
    dsimp only
    rw [hend, flatten_append, flatten_append, flatten_cons, flatten_plain, ← List.append_assoc]
    exact Option.map_eq_none_iff.2 (typeAndName?_eq_none (by decide) (by decide) gap)

def listLexemes (blanks : Gap) : List Formal → List Lexeme
  | [] => plain blanks.chars
  | p :: ps => [.char ','].intercalate ((p :: ps).map lexemes)

/-- Each angle bracket in the annotations of a parameter is one of a pair, and the commas in them
stand in brackets. -/
def Separated (ps : List Formal) : Prop :=
  ∀ p ∈ ps, NoSplit 0 p.front.lexemes ∧ levels p.front.lexemes = 0

instance (ps : List Formal) : Decidable (Separated ps) :=
  inferInstanceAs (Decidable (∀ p ∈ ps, _))

variable {ps : List Formal} {blanks : Gap}

theorem neutral_bracketLexemes (p : Formal) : Neutral p.bracketLexemes := by
  have hmark (c : Char) (hc : c = '[' ∨ c = ']') : Neutral [.char c] := by
    intro l hl
    rw [List.mem_singleton.1 hl]
    rcases hc with rfl | rfl <;> decide
  intro l hl
  obtain ⟨x, -, hl⟩ := List.mem_flatMap.1 hl
  have hpair := ((hmark '[' (.inl rfl)).append x.1.neutral).append
    ((hmark ']' (.inr rfl)).append x.2.neutral)
  rw [List.append_assoc] at hpair
  exact hpair l hl

theorem balanced_bracketLexemes (p : Formal) : Balanced p.bracketLexemes := by
  apply Unbracketed.balanced
  intro l hl hmem
  obtain ⟨x, -, hl⟩ := List.mem_flatMap.1 hl
  rcases List.mem_cons.1 hl with rfl | hl
  · exact absurd hmem (by decide)
  · rcases List.mem_append.1 hl with hl | hl
    · exact unbracketed_plain (by decide) x.1.blank l hl hmem
    · rcases List.mem_cons.1 hl with rfl | hl
      · exact absurd hmem (by decide)
      · exact unbracketed_plain (by decide) x.2.blank l hl hmem

theorem isPiece_lexemes (h : Separated ps) {p : Formal} (hp : p ∈ ps) :
    NoSplit 0 p.lexemes ∧ levels p.lexemes = 0 ∧ ∃ l ∈ p.lexemes, l.isBlank = false := by
  obtain ⟨hsplit, hlevels⟩ := h p hp
  have hunbracketed : levels p.unbracketed.lexemes = 0 := by
    rw [Parameter.levels_lexemes]
    exact hlevels
  obtain ⟨c, cs, hname, hword⟩ := p.name.exists_cons
  refine ⟨?_, ?_, .char c, ?_, Text.isBlank_eq_false_of_isWord hword⟩
  · rw [lexemes, noSplit_append]
    exact ⟨Parameter.noSplit_lexemes hsplit hlevels, p.neutral_bracketLexemes.noSplit _⟩
  · rw [lexemes, levels_append, hunbracketed, p.neutral_bracketLexemes.levels_eq_zero,
      Int.zero_add]
  · simp [lexemes, Parameter.lexemes, Parameter.declaration, unbracketed, plain, hname]

theorem listItems_listLexemes (h : Separated ps) :
    listItems (listLexemes blanks ps) = ps.map lexemes := by
  cases ps with
  | nil => exact @Parameter.listItems_listLexemes [] _ trivial
  | cons p ps =>
    refine listItems_intercalate (List.cons_ne_nil _ _) fun piece hpiece ↦ ?_
    obtain ⟨q, hq, rfl⟩ := List.mem_map.1 hpiece
    exact isPiece_lexemes h hq

/-- What is read of a list of parameters is what is read of each of them. -/
theorem filterMap_parameter? (h : Separated ps) :
    (listItems (listLexemes blanks ps)).filterMap parameter? = ps.filterMap read? := by
  rw [listItems_listLexemes h, List.filterMap_map]
  exact List.filterMap_congr fun p _ ↦ p.parameter?_lexemes

theorem closed_intercalate {opener closer : Char} (hopener : opener ≠ ',') (hcloser : closer ≠ ',')
    {pieces : List (List Lexeme)} (h : ∀ piece ∈ pieces, Closed opener closer 0 piece) :
    Closed opener closer 0 ([.char ','].intercalate pieces) := by
  induction pieces with
  | nil => rfl
  | cons piece pieces ih =>
    obtain ⟨hpiece, hpieces⟩ := List.forall_mem_cons.1 h
    cases pieces with
    | nil =>
      rw [List.intercalate_singleton]
      exact hpiece
    | cons next pieces =>
      rw [List.intercalate_cons_cons, List.append_assoc]
      apply closed_append_zero hpiece
      rw [List.singleton_append, Closed, if_neg fun heq ↦ hcloser (Lexeme.char.inj heq).symm,
        if_neg fun heq ↦ hopener (Lexeme.char.inj heq).symm]
      exact ih hpieces

theorem parens_list (blanks : Gap) (ps : List Formal) :
    Closed '(' ')' 0 (listLexemes blanks ps) := by
  cases ps with
  | nil => exact blanks.balanced.parens
  | cons p ps =>
    refine closed_intercalate (by decide) (by decide) fun piece hpiece ↦ ?_
    obtain ⟨q, -, rfl⟩ := List.mem_map.1 hpiece
    exact closed_append_zero q.unbracketed.parens_lexemes q.balanced_bracketLexemes.parens

theorem braces_list (blanks : Gap) (ps : List Formal) :
    Closed '{' '}' 0 (listLexemes blanks ps) := by
  cases ps with
  | nil => exact blanks.balanced.braces
  | cons p ps =>
    refine closed_intercalate (by decide) (by decide) fun piece hpiece ↦ ?_
    obtain ⟨q, -, rfl⟩ := List.mem_map.1 hpiece
    exact closed_append_zero q.unbracketed.braces_lexemes q.balanced_bracketLexemes.braces

end Formal

/-! ## Methods -/

structure MethodForm where
  front : Front
  /-- The type parameters and the return type. -/
  head : List Char
  gap : Gap
  name : Identifier
  nameGap : Gap
  blanks : Gap
  formals : List Formal
  tail : List Lexeme
  block : Option Block
  starts : StartsDeclaration (plain (head ++ gap.chars ++ name.chars))
  notType : firstWord (head ++ gap.chars ++ name.chars) ∉ typeKeywords
  ends : EndsType head gap
  head_unbracketed : Unbracketed (plain head)
  noAssignment : '=' ∉ head
  section_closed : head.head? = some '<' → '>' ∈ head
  tail_balanced : Balanced tail

namespace MethodForm

variable (m : MethodForm)

/-- The lexemes after the parenthesis that opens the parameter list. -/
def list : List Lexeme :=
  Formal.listLexemes m.blanks m.formals ++ .char ')' :: m.tail

def declaration : List Lexeme :=
  plain (m.head ++ m.gap.chars ++ m.name.chars ++ m.nameGap.chars) ++ .char '(' :: m.list

def lexemes : List Lexeme :=
  m.front.lexemes ++ m.declaration ++ ending m.block

/-- What is read of a method. -/
def read? : Option Java.Method :=
  (methodHead? (flatten m.declaration)).map fun head ↦
    ⟨m.front.annotations, head.returnType, m.name.text, m.formals.filterMap Formal.read?⟩

/-- The text from the name of the method on. -/
def fromName : List Char :=
  m.name.chars ++ m.nameGap.chars ++ '(' :: flatten m.list

theorem flatten_declaration : flatten m.declaration = m.head ++ m.gap.chars ++ m.fromName := by
  simp [declaration, fromName, Lexeme.chars]

theorem balanced_declaration : Balanced m.declaration := by
  have hsignature :
      Balanced (plain (m.head ++ m.gap.chars ++ m.name.chars ++ m.nameGap.chars)) := by
    rw [plain_append, plain_append, plain_append]
    exact ((m.head_unbracketed.balanced.append m.gap.balanced).append m.name.balanced).append
      m.nameGap.balanced
  exact hsignature.append (balanced_parenthesized (Formal.parens_list m.blanks m.formals)
    (Formal.braces_list m.blanks m.formals) m.tail_balanced)

theorem startsDeclaration : StartsDeclaration m.declaration := by
  have hne : m.head ++ m.gap.chars ++ m.name.chars ≠ [] :=
    List.append_ne_nil_of_right_ne_nil _ m.name.ne_nil
  rw [declaration, plain_append _ m.nameGap.chars, List.append_assoc]
  exact startsDeclaration_parenthesis m.starts hne m.nameGap _

theorem typeName?_declaration : typeName? (flatten m.declaration) = none := by
  apply typeName?_eq_none
  rw [flatten_declaration, fromName, List.append_assoc m.name.chars, ← List.append_assoc,
    firstWord_append (m.nameGap.head_eq_false
      (fun _ ↦ Text.isWord_eq_false_of_isBlank) '(' (by decide) _)]
  exact m.notType

theorem head_ne_nil : m.head ≠ [] := by
  obtain ⟨c, hc, -⟩ := m.ends
  rintro hnil
  rw [hnil] at hc
  cases hc

theorem isBeforeParameters_head : ∀ c ∈ m.head ++ m.gap.chars, isBeforeParameters c = true := by
  intro c hc
  rcases List.mem_append.1 hc with hc | hc
  · exact isBeforeParameters_of_unbracketed m.head_unbracketed m.noAssignment c hc
  · exact isBeforeParameters_of_blank (m.gap.blank c hc)

variable {m}

/-- Wherever the reading starts before the name, it ends at the name and the parenthesis. -/
theorem typedHead?_of_suffix {before : List Char} (hsuffix : before <:+ m.head ++ m.gap.chars)
    {head : MethodHead} (h : typedHead? (before ++ m.fromName) = some head) :
    head.name = m.name.text ∧ head.parameters = flatten m.list := by
  have hbefore : ∀ c ∈ before ++ m.name.chars ++ m.nameGap.chars, isBeforeParameters c = true := by
    intro c hc
    rcases List.mem_append.1 hc with hc | hc
    · rcases List.mem_append.1 hc with hc | hc
      · exact m.isBeforeParameters_head c (hsuffix.subset hc)
      · exact isBeforeParameters_of_word (m.name.word c hc)
    · exact isBeforeParameters_of_blank (m.nameGap.blank c hc)
  have hlast : ∀ c ∈ before.getLast?, Text.isWord c = false := by
    obtain ⟨skipped, hskipped⟩ := hsuffix
    intro c hc
    refine getLast?_append_gap m.ends c ?_
    rw [← hskipped, List.getLast?_append, hc, Option.some_or]
    exact Option.mem_some_self c
  have hsplit : Text.splitTrailing Text.isWord
      (Text.trimEnd (before ++ m.name.chars ++ m.nameGap.chars)) = (before, m.name.chars) := by
    rw [Text.trimEnd_append_stop (getLast?_append_identifier before m.name) m.nameGap.blank,
      Text.splitTrailing_append_stop hlast m.name.word]
  rw [fromName, ← List.append_assoc, ← List.append_assoc, typedHead?_parenthesis hbefore hsplit]
    at h
  split at h
  · cases h
  · cases h
    exact ⟨rfl, rfl⟩

theorem trimStart_append_fromName (before : List Char) :
    Text.trimStart (before ++ m.fromName) = Text.trimStart before ++ m.fromName := by
  obtain ⟨d, ds, hname, hword⟩ := m.name.exists_cons
  apply Text.trimStart_append
  intro c hc
  rw [fromName, hname] at hc
  cases hc
  exact Text.isBlank_eq_false_of_isWord hword

/-- Type parameters are cut off somewhere in them, but always before the name. -/
theorem methodHead?_declaration {head : MethodHead}
    (h : methodHead? (flatten m.declaration) = some head) :
    head.name = m.name.text ∧ head.parameters = flatten m.list := by
  rw [flatten_declaration] at h
  by_cases hsection : m.head.head? = some '<'
  · obtain ⟨inner, hinner⟩ := List.head?_eq_some_iff.1 hsection
    -- The section is taken to end at the first `>`, which may be one of a bound inside of it.
    have hclosed : '>' ∈ inner := by
      have hmem := m.section_closed hsection
      rw [hinner] at hmem
      exact (List.mem_cons.1 hmem).resolve_left (by decide)
    obtain ⟨rest, hrest⟩ : ∃ rest, inner.dropWhile (· != '>') = '>' :: rest :=
      ⟨_, Text.dropWhile_ne_of_mem hclosed⟩
    have hsuffix : rest ++ m.gap.chars <:+ m.head ++ m.gap.chars := by
      obtain ⟨skipped, hskipped⟩ := List.dropWhile_suffix (l := inner) (· != '>')
      refine ⟨'<' :: (skipped ++ ['>']), ?_⟩
      rw [hinner, ← hskipped, hrest]
      simp
    have hdrop : (inner ++ m.gap.chars ++ m.fromName).dropWhile (· != '>') =
        '>' :: (rest ++ m.gap.chars ++ m.fromName) := by
      rw [List.append_assoc, List.dropWhile_append, hrest]
      simp
    rw [hinner, List.cons_append, List.cons_append, methodHead?, hdrop] at h
    rcases (Option.orElse_eq_some _ _ _).1 h with h | ⟨-, h⟩
    · rw [trimStart_append_fromName] at h
      exact typedHead?_of_suffix ((List.dropWhile_suffix _).trans hsuffix) h
    · rcases (Option.orElse_eq_some _ _ _).1 h with h | ⟨-, h⟩
      · exact typedHead?_of_suffix hsuffix h
      · rw [← List.cons_append, ← List.cons_append, ← hinner] at h
        exact typedHead?_of_suffix List.suffix_rfl h
  · rw [methodHead?_eq_typedHead?] at h
    · exact typedHead?_of_suffix List.suffix_rfl h
    · rwa [List.append_assoc, List.head?_append_of_ne_nil _ m.head_ne_nil]

/-- The parameter list is found in the text of the declaration. -/
theorem closing_lex_list (hwhole : ∀ l ∈ m.declaration, l.IsWhole) :
    closing '(' ')' 0 (lex (flatten m.list)) =
      some (Formal.listLexemes m.blanks m.formals, m.tail) := by
  have hlist : ∀ l ∈ m.list, l.IsWhole := fun l hl ↦
    hwhole l (List.mem_append_right _ (List.mem_cons_of_mem _ hl))
  rw [lex_flatten hlist]
  exact closing_of_closed (Formal.parens_list m.blanks m.formals) m.tail

/-- What is read of a method does not depend on what is written behind it. -/
theorem method?_declaration (h : Formal.Separated m.formals)
    (hwhole : ∀ l ∈ m.declaration, l.IsWhole) (after : List Lexeme) (following : List Char) :
    method? m.front.annotations m.declaration after following = m.read? := by
  have hread : parameterList? (flatten m.list) after following =
      some (Formal.listLexemes m.blanks m.formals) := by
    rw [parameterList?, closing_lex_list hwhole]
    rfl
  rw [method?, read?]
  cases hhead : methodHead? (flatten m.declaration) with
  | none => rfl
  | some head =>
    obtain ⟨hname, hparameters⟩ := methodHead?_declaration hhead
    simp only [Option.bind_eq_bind, Option.bind_some, Option.map_some, hname, hparameters, hread,
      Formal.filterMap_parameter? h]
    rfl

end MethodForm

end EndpointStubs.Java.Written
