import EndpointStubs.Proofs.Layout
import EndpointStubs.Proofs.LiteralValue
import EndpointStubs.Proofs.MemberReading

/-!
# Texts that nothing is reported from

Nothing is reported from a text whose literals are closed, which has no at sign and
no slash outside of them, and in which literals and angle brackets stand only
behind the first parenthesis or equals sign of their declaration. The last
condition is there because the head of a method is read from characters: the
parenthesis that opens its parameters must not be one in a literal. Types and
methods may well be found in such a text, but none of them has an annotation.
Texts are joined from pieces, each of which says whether that first parenthesis or
equals sign must stand before it, and whether it stands before what follows.
-/

namespace EndpointStubs.Java

open Written

def endsDeclaration (c : Char) : Bool :=
  c == ';' || c == '{' || c == '}'

/-- Whether the first parenthesis or equals sign of a declaration has been passed after one more
lexeme, if `before` says so before it. -/
def passed (before : Bool) (l : Lexeme) : Bool :=
  if l.is fun c ↦ !isBeforeParameters c then true
  else if l.is endsDeclaration then false
  else before

/-- Literals and angle brackets stand behind the first parenthesis or equals sign of their
declaration. -/
def guarded (before : Bool) : List Lexeme → Bool
  | [] => true
  | l :: rest => (before || l.is (· != '<')) && guarded (passed before l) rest

section Guarded

variable {before : Bool} {xs ys : List Lexeme}

theorem passed_of_imp {after : Bool} (h : before = true → after = true) {l : Lexeme}
    (hl : passed before l = true) : passed after l = true := by
  unfold passed at hl ⊢
  split
  · rfl
  · rename_i hopens
    rw [if_neg hopens] at hl
    split at hl
    · cases hl
    · rename_i hends
      rw [if_neg hends]
      exact h hl

theorem guarded_of_imp {after : Bool} (h : before = true → after = true)
    (hxs : guarded before xs = true) : guarded after xs = true := by
  induction xs generalizing before after with
  | nil => rfl
  | cons l xs ih =>
    rw [guarded, Bool.and_eq_true, Bool.or_eq_true] at hxs ⊢
    exact ⟨hxs.1.imp_left h, ih (passed_of_imp h) hxs.2⟩

theorem foldl_passed_of_imp {after : Bool} (h : before = true → after = true)
    (hxs : xs.foldl passed before = true) : xs.foldl passed after = true := by
  induction xs generalizing before after with
  | nil => exact h hxs
  | cons l xs ih => exact ih (passed_of_imp h) hxs

theorem guarded_append : guarded before (xs ++ ys) =
    (guarded before xs && guarded (xs.foldl passed before) ys) := by
  induction xs generalizing before with
  | nil => rfl
  | cons l xs ih => rw [List.cons_append, guarded, guarded, ih, List.foldl_cons, Bool.and_assoc]

/-- The end of a declaration parts a text. -/
theorem guarded_append_end {c : Char} (hc : endsDeclaration c = true)
    (h : guarded before (xs ++ .char c :: ys) = true) :
    guarded before xs = true ∧ guarded false ys = true := by
  rw [guarded_append, Bool.and_eq_true, guarded, Bool.and_eq_true] at h
  have hbefore : isBeforeParameters c = true := by
    rw [endsDeclaration, Bool.or_eq_true, Bool.or_eq_true, beq_iff_eq, beq_iff_eq, beq_iff_eq] at hc
    rcases hc with (rfl | rfl) | rfl <;> decide
  have hpassed : passed (xs.foldl passed before) (.char c) = false := by
    simp [passed, Lexeme.is, hbefore, hc]
  rw [hpassed] at h
  exact ⟨h.1, h.2.2⟩

/-- Characters of a class without parentheses, equals signs and ends change nothing. -/
theorem passed_of_class {p : Char → Bool} (hp : ['(', '=', ';', '{', '}'].any p = false)
    {l : Lexeme} (h : l.is p = true) : passed before l = before := by
  cases l with
  | literal text => cases h
  | char c =>
    have hc : c ∉ ['(', '=', ';', '{', '}'] := fun hmem ↦ List.any_eq_false.1 hp c hmem h
    simp only [List.mem_cons, List.not_mem_nil, or_false, not_or] at hc
    simp [passed, Lexeme.is, isBeforeParameters, endsDeclaration, hc]

theorem guarded_dropWhile {p : Char → Bool} (hp : ['(', '=', ';', '{', '}'].any p = false)
    (h : guarded before xs = true) : guarded before (xs.dropWhile (Lexeme.is p)) = true := by
  induction xs with
  | nil => rfl
  | cons l xs ih =>
    rw [List.dropWhile_cons]
    split
    · rename_i hl
      rw [guarded, Bool.and_eq_true, passed_of_class hp hl] at h
      exact ih h.2
    · exact h

end Guarded

section Header

variable {before : Bool} {header rest : List Lexeme}

theorem eq_of_peel_declaration (hat : .char '@' ∉ header)
    (h : peel header = .declaration rest) : rest = header := by
  cases header with
  | nil =>
    cases h
    rfl
  | cons l ls =>
    have hl : l ≠ .char '@' := by
      rintro rfl
      exact hat List.mem_cons_self
    rw [peel, if_neg hl] at h
    split at h
    · cases h
    · dsimp only at h
      split at h
      · cases h
      · cases h
        rfl

theorem guarded_of_peel_ignored (hguarded : guarded before header = true)
    (h : peel header = .ignored rest) : guarded before rest = true := by
  cases header with
  | nil => cases h
  | cons l ls =>
    rw [peel] at h
    split at h
    · rename_i hblank
      cases h
      rw [guarded, Bool.and_eq_true, passed_of_class (by decide) hblank] at hguarded
      exact hguarded.2
    · split at h
      · exact absurd h (peelAnnotated_ne_ignored _ _ _)
      · dsimp only at h
        split at h
        · cases h
          exact guarded_dropWhile (by decide) hguarded
        · cases h

/-- What is left of a header without an at sign after its modifiers. -/
theorem guarded_peelHeader (hat : .char '@' ∉ header) (h : guarded before header = true) :
    (peelHeader header).2 <:+ header ∧ guarded before (peelHeader header).2 = true := by
  fun_induction peelHeader header with
  | case1 header a rest hpeel => exact absurd hpeel (peel_ne_annotated hat a)
  | case2 header rest hpeel ih =>
    have hsuffix := suffix_of_peel_ignored hpeel
    have hrest := ih (fun hmem ↦ hat (hsuffix.subset hmem)) (guarded_of_peel_ignored h hpeel)
    exact ⟨hrest.1.trans hsuffix, hrest.2⟩
  | case3 header rest hpeel =>
    rw [eq_of_peel_declaration hat hpeel]
    exact ⟨List.suffix_rfl, h⟩

/-- The first parenthesis is a lexeme, and no part of a literal. -/
theorem exists_parenthesis_of_guarded {ls : List Lexeme} (h : guarded false ls = true)
    {text parameters : List Char} (htext : ∀ c ∈ text, isBeforeParameters c = true)
    (heq : flatten ls = text ++ '(' :: parameters) :
    ∃ xs ys, ls = xs ++ .char '(' :: ys ∧ flatten ys = parameters := by
  induction ls generalizing text with
  | nil => exact absurd heq.symm (List.append_ne_nil_of_right_ne_nil _ (List.cons_ne_nil _ _))
  | cons l ls ih =>
    rw [guarded, Bool.and_eq_true, Bool.false_or] at h
    cases l with
    | literal literal => cases h.1
    | char c =>
      rw [flatten_cons, Lexeme.chars, List.singleton_append] at heq
      cases text with
      | nil =>
        obtain ⟨rfl, hrest⟩ := List.cons.inj heq
        exact ⟨[], ls, rfl, hrest⟩
      | cons d text =>
        obtain ⟨rfl, hrest⟩ := List.cons.inj heq
        have hc := htext c List.mem_cons_self
        have hpassed : passed false (.char c) = false := by
          rw [passed, Lexeme.is, hc, Bool.not_true, if_neg Bool.false_ne_true, ite_self]
        rw [hpassed] at h
        obtain ⟨xs, ys, hls, hys⟩ := ih h.2 (fun d hd ↦ htext d (List.mem_cons_of_mem _ hd)) hrest
        exact ⟨.char c :: xs, ys, by rw [hls, List.cons_append], hys⟩

theorem exists_of_methodHead? {declaration : List Lexeme} (h : guarded false declaration = true)
    {head : MethodHead} (hhead : methodHead? (flatten declaration) = some head) :
    ∃ xs ys, declaration = xs ++ .char '(' :: ys ∧ flatten ys = head.parameters := by
  obtain ⟨text, heq, htext⟩ := methodHead?_eq_some hhead
  refine exists_parenthesis_of_guarded h (htext fun hsection ↦ ?_) heq
  cases declaration with
  | nil => cases hsection
  | cons l rest =>
    rw [guarded, Bool.and_eq_true, Bool.false_or] at h
    cases l with
    | literal literal => cases h.1
    | char c =>
      cases hsection
      cases h.1

end Header

/-- The literals are closed, and no at sign stands outside of them. -/
def Unannotated (ls : List Lexeme) : Prop :=
  ∀ l ∈ ls, l.IsWhole ∧ l ≠ .char '@'

instance (ls : List Lexeme) : Decidable (Unannotated ls) :=
  inferInstanceAs (Decidable (∀ l ∈ ls, _))

section Unannotated

variable {xs ys : List Lexeme}

theorem Unannotated.append (h : Unannotated xs) (hys : Unannotated ys) : Unannotated (xs ++ ys) :=
  List.forall_mem_append.2 ⟨h, hys⟩

theorem Unannotated.of_subset (h : Unannotated xs) (hsub : ys ⊆ xs) : Unannotated ys :=
  fun l hl ↦ h l (hsub hl)

theorem Unannotated.isWhole (h : Unannotated xs) : ∀ l ∈ xs, l.IsWhole :=
  fun l hl ↦ (h l hl).1

theorem Unannotated.not_mem (h : Unannotated xs) : .char '@' ∉ xs :=
  fun hmem ↦ (h _ hmem).2 rfl

/-- The method that a declaration may be taken for has nothing that is annotated. -/
theorem methodFacts_of_guarded {declaration after : List Lexeme} {following : List Char}
    (hdeclaration : Unannotated declaration) (hafter : Unannotated after)
    (hfollowing : Unannotated (lex following)) (h : guarded false declaration = true)
    {m : Java.Method} (hm : method? [] declaration after following = some m) (outer : String) :
    methodFacts outer m = [] := by
  obtain ⟨head, list, hhead, hlist, rfl⟩ := method?_eq_some hm
  obtain ⟨xs, ys, rfl, hys⟩ := exists_of_methodHead? h hhead
  have hrest : Unannotated ys := hdeclaration.of_subset fun l hl ↦
    List.mem_append_right _ (List.mem_cons_of_mem _ hl)
  have hlex : lex (head.parameters ++ (flatten after ++ following)) =
      ys ++ (after ++ lex following) := by
    rw [← hys, lex_flatten_append hrest.isWhole, lex_flatten_append hafter.isWhole]
  rw [parameterList?_eq, hlex, Option.map_eq_some_iff] at hlist
  obtain ⟨⟨inside, outside⟩, hclose, rfl⟩ := hlist
  refine methodFacts_of_list fun hat ↦ (hrest.append (hafter.append hfollowing)).not_mem ?_
  rw [append_of_closing hclose]
  exact List.mem_append_left _ hat

theorem membersFacts_of_method? {annotations : List AnnotationUse} {declaration after : List Lexeme}
    {following : List Char} (packageName : String) (imports : List String) (outer : String)
    (h : ∀ m, method? annotations declaration after following = some m → methodFacts outer m = []) :
    membersFacts packageName imports outer
      ((method? annotations declaration after following).map .method).toList = [] := by
  cases hm : method? annotations declaration after following with
  | none => rfl
  | some m =>
    rw [Option.map_some, Option.toList_some, membersFacts, membersFacts, memberFacts, h m hm]
    rfl

/-- A header of such a text has no annotations, and its declaration and the text after it are such
texts, too. -/
theorem of_nextHeader? {text header after : List Lexeme} {hasBlock : Bool}
    (hnext : nextHeader? 0 text = some (header, hasBlock, after)) (htext : Unannotated text)
    (h : guarded false text = true) :
    ((peelHeader header).1 = [] ∧ Unannotated (peelHeader header).2 ∧
      guarded false (peelHeader header).2 = true) ∧
      Unannotated after ∧ guarded false after = true := by
  rw [append_of_nextHeader? hnext] at htext h
  have hends : endsDeclaration (if hasBlock then '{' else ';') = true := by
    cases hasBlock <;> rfl
  obtain ⟨hguarded, hafter⟩ := guarded_append_end hends h
  have hheader : Unannotated header := htext.of_subset (List.subset_append_left _ _)
  have hrest : Unannotated after := htext.of_subset fun l hl ↦
    List.mem_append_right _ (List.mem_cons_of_mem _ hl)
  obtain ⟨hsuffix, hdeclaration⟩ := guarded_peelHeader hheader.not_mem hguarded
  exact ⟨⟨peelHeader_fst_eq_nil hheader.not_mem, hheader.of_subset hsuffix.subset, hdeclaration⟩,
    hrest, hafter⟩

/-- No fact is reported from the members of a text that is guarded and has no annotations. -/
theorem membersFacts_of_guarded {text : List Lexeme} {following : List Char}
    (htext : Unannotated text) (hfollowing : Unannotated (lex following))
    (h : guarded false text = true) (packageName : String) (imports : List String)
    (outer : String) :
    membersFacts packageName imports outer (members following text) = [] := by
  fun_induction members following text generalizing outer with
  | case1 => rfl
  | case2 following text header after hnext annotations declaration hpeel member ih =>
    obtain ⟨⟨hnone, hdeclaration, hguarded⟩, hafter, hrest⟩ := of_nextHeader? hnext htext h
    rw [hpeel] at hnone hdeclaration hguarded
    dsimp only at hnone hdeclaration hguarded
    subst hnone
    rw [membersFacts_append, ih hafter hfollowing hrest, List.append_nil]
    dsimp only [member]
    split
    · rfl
    · have hsemicolon : Unannotated (.char ';' :: after) :=
        List.forall_mem_cons.2 ⟨by decide, hafter⟩
      exact membersFacts_of_method? packageName imports outer fun m hm ↦
        methodFacts_of_guarded hdeclaration hsemicolon hfollowing hguarded hm outer
  | case3 => rfl
  | case4 following text header rest hnext body after hclose annotations declaration hpeel member
      ihBody ih =>
    obtain ⟨⟨hnone, hdeclaration, hguarded⟩, hrest, hrestGuarded⟩ := of_nextHeader? hnext htext h
    rw [hpeel] at hnone hdeclaration hguarded
    dsimp only at hnone hdeclaration hguarded
    subst hnone
    have happend := append_of_closing hclose
    rw [happend] at hrestGuarded
    obtain ⟨hbodyGuarded, hafterGuarded⟩ := guarded_append_end rfl hrestGuarded
    have hbody : Unannotated body := hrest.of_subset (happend ▸ List.subset_append_left _ _)
    have hclosed : Unannotated (.char '}' :: after) := hrest.of_subset
      (happend ▸ List.subset_append_right _ _)
    have hafter : Unannotated after := hclosed.of_subset (List.subset_cons_self _ _)
    rw [membersFacts_append, ih hafter hfollowing hafterGuarded, List.append_nil]
    dsimp only [member]
    split
    · have hlex : lex ('}' :: flatten after ++ following) = .char '}' :: after ++ lex following :=
        lex_flatten_append hclosed.isWhole following
      have hmembers := ihBody hbody (hlex ▸ hclosed.append hfollowing) hbodyGuarded
      rw [Option.toList_some, membersFacts, memberFacts, hmembers]
      rfl
    · have hbrace : Unannotated (.char '{' :: rest) := List.forall_mem_cons.2 ⟨by decide, hrest⟩
      exact membersFacts_of_method? packageName imports outer fun m hm ↦
        methodFacts_of_guarded hdeclaration hbrace hfollowing hguarded hm outer

end Unannotated

/-- Leaving members out adds no facts. -/
theorem membersFacts_filter_eq_nil {packageName : String} {imports : List String} {outer : String}
    {ms : List Member} (h : membersFacts packageName imports outer ms = []) (p : Member → Bool) :
    membersFacts packageName imports outer (ms.filter p) = [] := by
  induction ms with
  | nil => rfl
  | cons m ms ih =>
    rw [membersFacts, List.append_eq_nil_iff] at h
    rw [List.filter_cons]
    split
    · rw [membersFacts, h.1, ih h.2]
      rfl
    · exact ih h.2

/-- The literal of a text on one line ends with it. -/
theorem closes_escape {text : List Char} (h : '\n' ∉ text) : Closes '"' (escape text ++ ['"']) := by
  induction text with
  | nil => decide
  | cons c text ih =>
    rw [List.mem_cons, not_or] at h
    have hrest := ih h.2
    by_cases hmark : c = '\\' ∨ c = '"'
    · rw [escape_cons_of_mark hmark, List.cons_append, List.cons_append, Closes, if_pos rfl]
      exact hrest
    · rw [escape_cons_of_not_mark hmark, List.cons_append]
      rw [not_or] at hmark
      rw [Closes.eq_def]
      dsimp only
      rw [if_neg hmark.1, if_neg hmark.2]
      exact ⟨Ne.symm h.1, hrest⟩

theorem isWhole_quoted {text : List Char} (h : '\n' ∉ text) :
    (Lexeme.literal ('"' :: (escape text ++ ['"']))).IsWhole :=
  ⟨rfl, closes_escape h⟩

theorem lex_quoted {text : List Char} (h : '\n' ∉ text) :
    lex ('"' :: (escape text ++ ['"'])) = [.literal ('"' :: (escape text ++ ['"']))] := by
  have hchars := lex_chars_append (isWhole_quoted h) []
  rwa [List.append_nil, Lexeme.chars, lex.eq_1] at hchars

/-- Escaping adds backslashes only. -/
theorem mem_of_mem_escape {c : Char} {text : List Char} (hc : c ≠ '\\') (h : c ∈ escape text) :
    c ∈ text := by
  obtain ⟨d, hd, hmem⟩ := List.mem_flatMap.1 h
  unfold escapeChar at hmem
  split at hmem
  · rcases List.mem_cons.1 hmem with rfl | hmem
    · exact absurd rfl hc
    · exact List.mem_singleton.1 hmem ▸ hd
  · exact List.mem_singleton.1 hmem ▸ hd

/-! ## Pieces of texts -/

/-- What a piece of code must not have: the characters that mean something to the scanner where
they stand, and the carriage return, which is read from a file as the end of a line. -/
def marks : Bool → List Char
  | true => ['"', '\'', '@', '/', '\r', ';', '{', '}']
  | false => ['"', '\'', '@', '/', '\r', '<']

/-- The text has no marks. -/
def Unmarked (before : Bool) (text : String) : Prop :=
  ∀ c ∈ text.toList, c ∉ marks before

instance (before : Bool) (text : String) : Decidable (Unmarked before text) :=
  List.decidableBAll (· ∉ marks before) text.toList

/-- For a literal, which is tested so without encoding it and decoding it again. -/
theorem Unmarked.ofList {before : Bool} {chars : List Char}
    (h : chars.any (marks before).contains = false) : Unmarked before (.ofList chars) := by
  rw [Unmarked, String.toList_ofList]
  exact fun c hc hmark ↦ List.any_eq_false.1 h c hc (List.contains_iff_mem.2 hmark)

theorem Unmarked.append {before : Bool} {text more : String} (h : Unmarked before text)
    (hmore : Unmarked before more) : Unmarked before (text ++ more) := by
  rw [Unmarked, String.toList_append]
  exact List.forall_mem_append.2 ⟨h, hmore⟩

theorem not_mem_marks {before : Bool} {c : Char} (h : c ∉ marks before) :
    isQuote c = false ∧ c ≠ '@' ∧ c ≠ '/' ∧ c ≠ '\r' := by
  cases before <;> simp_all [marks, isQuote]

theorem passed_of_not_mem_marks {before : Bool} {c : Char} (h : c ∉ marks before)
    (hbefore : before = true) : passed before (.char c) = true := by
  subst hbefore
  have hends : endsDeclaration c = false := by
    simp only [marks, List.mem_cons, List.not_mem_nil, or_false, not_or] at h
    simp [endsDeclaration, h]
  rw [passed, Lexeme.is, Lexeme.is, hends]
  split <;> rfl

/-- Code without marks is guarded, and behind it the same has been passed as before it. -/
theorem guarded_plain {before : Bool} {text : List Char} (h : ∀ c ∈ text, c ∉ marks before) :
    guarded before (plain text) = true ∧
      (before = true → (plain text).foldl passed before = true) := by
  induction text with
  | nil => exact ⟨rfl, id⟩
  | cons c text ih =>
    obtain ⟨hguarded, hpassed⟩ := ih fun d hd ↦ h d (List.mem_cons_of_mem _ hd)
    have hc := h c List.mem_cons_self
    have hangle : (before || (Lexeme.char c).is (· != '<')) = true := by
      cases before with
      | true => rfl
      | false =>
        simp only [marks, List.mem_cons, List.not_mem_nil, or_false, not_or] at hc
        simp [Lexeme.is, hc]
    have hkept := passed_of_not_mem_marks hc
    constructor
    · rw [plain, List.map_cons, guarded, hangle, Bool.true_and]
      exact guarded_of_imp hkept hguarded
    · intro hbefore
      rw [plain, List.map_cons, List.foldl_cons]
      exact foldl_passed_of_imp hkept (hpassed hbefore)

/-- Nothing is reported from the text where the first parenthesis or equals sign of a declaration
stands before it, if `before` says so; then it stands before what follows, if `after` says so.
There are carriage returns in it only if `p` holds. -/
structure Inert (p : Prop) (before after : Bool) (text : List Char) : Prop where
  unannotated : Unannotated (lex text)
  noSlash : .char '/' ∉ lex text
  guarded : guarded before (lex text) = true
  passed : after = true → (lex text).foldl passed before = true
  returns : '\r' ∈ text → p

/-- A text without carriage returns is tested by reading it. -/
instance (before after : Bool) (text : List Char) : Decidable (Inert False before after text) :=
  decidable_of_iff (Unannotated (lex text) ∧ .char '/' ∉ lex text ∧
      Java.guarded before (lex text) = true ∧
      (after = true → (lex text).foldl Java.passed before = true) ∧ '\r' ∉ text)
    ⟨fun ⟨h₁, h₂, h₃, h₄, h₅⟩ ↦ ⟨h₁, h₂, h₃, h₄, h₅⟩,
      fun ⟨h₁, h₂, h₃, h₄, h₅⟩ ↦ ⟨h₁, h₂, h₃, h₄, h₅⟩⟩

namespace Inert

variable {p : Prop} {before middle after : Bool} {text more : List Char}

theorem of_false (h : Inert False before after text) : Inert p before after text :=
  { h with returns := fun hmem ↦ (h.returns hmem).elim }

/-- For a literal, as `Unmarked.ofList`. -/
theorem ofList {chars : List Char} (h : Inert False before after chars) :
    Inert p before after (String.ofList chars).toList := by
  rw [String.toList_ofList]
  exact h.of_false

theorem lex_append (h : Inert p before after text) (more : List Char) :
    lex (text ++ more) = lex text ++ lex more :=
  lex_append_of_isWhole h.unannotated.isWhole more

theorem append (h : Inert p before middle text) (hmore : Inert p middle after more) :
    Inert p before after (text ++ more) where
  unannotated := by
    rw [h.lex_append]
    exact h.unannotated.append hmore.unannotated
  noSlash := by
    rw [h.lex_append, List.mem_append, not_or]
    exact ⟨h.noSlash, hmore.noSlash⟩
  guarded := by
    rw [h.lex_append, guarded_append, h.guarded, Bool.true_and]
    exact guarded_of_imp h.passed hmore.guarded
  passed hafter := by
    rw [h.lex_append, List.foldl_append]
    exact foldl_passed_of_imp h.passed (hmore.passed hafter)
  returns hmem := (List.mem_append.1 hmem).elim h.returns hmore.returns

theorem lex_eq_plain (h : ∀ c ∈ text, isQuote c = false) : lex text = plain text := by
  have hwhole : ∀ l ∈ plain text, l.IsWhole := by
    intro l hl
    obtain ⟨c, hc, rfl⟩ := List.mem_map.1 hl
    exact h c hc
  have hlex := lex_flatten hwhole
  rwa [flatten_plain] at hlex

/-- Code without marks leaves everything as it is. -/
theorem of_forall (h : ∀ c ∈ text, c ∉ marks before) : Inert p before before text := by
  have hlex := lex_eq_plain fun c hc ↦ (not_mem_marks (h c hc)).1
  have hguarded := guarded_plain h
  rw [← hlex] at hguarded
  refine ⟨?_, ?_, hguarded.1, hguarded.2, fun hmem ↦ ?_⟩
  · rw [hlex]
    intro l hl
    obtain ⟨c, hc, rfl⟩ := List.mem_map.1 hl
    have hmarks := not_mem_marks (h c hc)
    exact ⟨hmarks.1, fun heq ↦ hmarks.2.1 (Lexeme.char.inj heq)⟩
  · rw [hlex]
    intro hmem
    obtain ⟨c, hc, heq⟩ := List.mem_map.1 hmem
    exact (not_mem_marks (h c hc)).2.2.1 (Lexeme.char.inj heq)
  · exact absurd rfl (not_mem_marks (h _ hmem)).2.2.2

theorem of_unmarked {text : String} (h : Unmarked before text) :
    Inert p before before text.toList :=
  of_forall h

theorem append_string {text more : String} (h : Inert p before middle text.toList)
    (hmore : Inert p middle after more.toList) : Inert p before after (text ++ more).toList := by
  rw [String.toList_append]
  exact h.append hmore

/-- The literal of a text on one line stands behind a parenthesis or an equals sign. -/
theorem literal (hline : '\n' ∉ text) (hreturns : '\r' ∈ text → p) :
    Inert p true true ('"' :: (escape text ++ ['"'])) := by
  have hlex := lex_quoted hline
  refine ⟨?_, ?_, ?_, ?_, fun hmem ↦ hreturns ?_⟩
  · rw [hlex]
    exact List.forall_mem_singleton.2 ⟨isWhole_quoted hline, Lexeme.noConfusion⟩
  · rw [hlex, List.mem_singleton]
    exact Lexeme.noConfusion
  · rw [hlex]
    rfl
  · rw [hlex]
    exact fun _ ↦ rfl
  · simp only [List.mem_cons, List.mem_append, List.not_mem_nil, or_false, Char.reduceEq,
      false_or] at hmem
    exact mem_of_mem_escape (by decide) hmem

/-- A text on one line between what is written before and behind its literal. -/
theorem quoted {text start rest opening closing : String}
    (hstart : Inert p before true start.toList) (hrest : Inert p true after rest.toList)
    (hopening : opening.toList = start.toList ++ ['"'])
    (hclosing : closing.toList = '"' :: rest.toList)
    (hline : '\n' ∉ text.toList) (hreturns : '\r' ∈ text.toList → p) :
    Inert p before after (opening ++ escapeString text ++ closing).toList := by
  have htext : (opening ++ escapeString text ++ closing).toList =
      start.toList ++ ('"' :: (escape text.toList ++ ['"'])) ++ rest.toList := by
    simp [hopening, hclosing, escapeString]
  rw [htext]
  exact (hstart.append (literal hline hreturns)).append hrest

/-- Lines from which nothing is reported make a file from which nothing is. -/
theorem intercalate {lines : List (List Char)} (h : ∀ line ∈ lines, Inert p false false line) :
    Inert p false false (['\n'].intercalate lines) := by
  have hnewline : Inert p false false ['\n'] :=
    of_forall (List.forall_mem_singleton.2 (by decide))
  induction lines with
  | nil => exact of_forall (List.forall_mem_nil _)
  | cons line lines ih =>
    have hline := h line List.mem_cons_self
    cases lines with
    | nil => rwa [List.intercalate_singleton]
    | cons next lines =>
      rw [List.intercalate_cons_cons]
      exact (hline.append hnewline).append (ih fun l hl ↦ h l (List.mem_cons_of_mem _ hl))

/-- Nothing is reported from a whole source like that. -/
theorem scan_eq_nil {source : String} (h : Inert p false after source.toList) :
    scan source = [] := by
  have hstrip := stripComments_of_not_hasCommentMark (not_hasCommentMark_of_not_mem h.noSlash)
  rw [scan, Outline.facts, Outline.ofText, hstrip]
  have hnil : Unannotated (lex []) := by
    rw [lex]
    exact List.forall_mem_nil _
  exact membersFacts_filter_eq_nil
    (membersFacts_of_guarded h.unannotated hnil h.guarded _ _ _) Member.isType

end Inert

end EndpointStubs.Java
