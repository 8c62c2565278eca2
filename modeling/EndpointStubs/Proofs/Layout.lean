import EndpointStubs.Java.Comment
import Mathlib.Data.List.Infix

/-!
# Layouts

A source is laid out by adding comments to it. A layout lists the passages of
the source: a block comment may stand for any space, a line comment anywhere
before the end of a line. Passages that do not run together are read back as
they were written, and what is left of a layout without its comments are the
lexemes it was made for. A text without the mark of a comment outside of its
literals has no comments.
-/

namespace EndpointStubs.Java

/-- The text runs from after an opening quote through the closing one, on one line. -/
def Closes (quote : Char) : List Char → Prop
  | [] => False
  | c :: rest =>
    if c = '\\' then
      match rest with
      | [] => False
      | _ :: rest => Closes quote rest
    else if c = quote then rest = []
    else c ≠ '\n' ∧ Closes quote rest

theorem literalTail_of_closes {quote : Char} {text : List Char} (h : Closes quote text)
    (more : List Char) : literalTail quote (text ++ more) = (text, more) := by
  fun_induction Closes quote text with
  | case1 => cases h
  | case2 => cases h
  | case3 escaped rest ih =>
    rw [List.cons_append, List.cons_append, literalTail, if_pos rfl, ih h]
  | case4 rest hescape =>
    subst h
    rw [List.cons_append, List.nil_append, literalTail.eq_def]
    simp only [if_neg hescape, true_or, if_true]
  | case5 c rest hescape hquote ih =>
    rw [List.cons_append, literalTail.eq_def]
    simp only [if_neg hescape, if_neg (not_or.2 ⟨hquote, h.1⟩), ih h.2]

/-- A lexeme that is read back as it is written, whatever follows it. -/
def Lexeme.IsWhole : Lexeme → Prop
  | .char c => isQuote c = false
  | .literal [] => False
  | .literal (quote :: text) => isQuote quote = true ∧ Closes quote text

instance decidableCloses (quote : Char) : (text : List Char) → Decidable (Closes quote text)
  | [] => inferInstanceAs (Decidable False)
  | [c] =>
    inferInstanceAs (Decidable (if c = '\\' then False else if c = quote then _ else _ ∧ False))
  | c :: d :: rest =>
    have := decidableCloses quote rest
    have := decidableCloses quote (d :: rest)
    inferInstanceAs (Decidable (if c = '\\' then _ else if c = quote then _ else _ ∧ _))

instance : (l : Lexeme) → Decidable l.IsWhole
  | .char _ => inferInstanceAs (Decidable (_ = _))
  | .literal [] => inferInstanceAs (Decidable False)
  | .literal (_ :: _) => inferInstanceAs (Decidable (_ ∧ _))

theorem lex_chars_append {l : Lexeme} (h : l.IsWhole) (more : List Char) :
    lex (l.chars ++ more) = l :: lex more := by
  cases l with
  | char c =>
    have hquote : ¬ isQuote c = true := Bool.eq_false_iff.1 h
    rw [Lexeme.chars, List.singleton_append, lex, if_neg hquote]
  | literal text =>
    cases text with
    | nil => cases h
    | cons quote text =>
      obtain ⟨hquote, hcloses⟩ := h
      rw [Lexeme.chars, List.cons_append, lex, if_pos hquote, literalTail_of_closes hcloses]

theorem lex_flatten_append {ls : List Lexeme} (h : ∀ l ∈ ls, l.IsWhole) (more : List Char) :
    lex (flatten ls ++ more) = ls ++ lex more := by
  induction ls with
  | nil => rfl
  | cons l ls ih =>
    rw [flatten_cons, List.append_assoc, lex_chars_append (h l List.mem_cons_self),
      ih fun m hm ↦ h m (List.mem_cons_of_mem _ hm), List.cons_append]

theorem lex_flatten {ls : List Lexeme} (h : ∀ l ∈ ls, l.IsWhole) : lex (flatten ls) = ls := by
  have hall := lex_flatten_append h []
  have hnil : lex [] = [] := by rw [lex]
  rwa [List.append_nil, hnil, List.append_nil] at hall

theorem lex_append_of_isWhole {text : List Char} (h : ∀ l ∈ lex text, l.IsWhole)
    (more : List Char) : lex (text ++ more) = lex text ++ lex more := by
  have happend := lex_flatten_append h more
  rwa [flatten_lex] at happend

namespace Passage

/-- What a passage is once the comments are gone. -/
def lexemes : Passage → List Lexeme
  | code c => [.char c]
  | literal text => [.literal text]
  | lineComment _ => []
  | blockComment _ => [.char ' ']

/-- The passages are kept apart: no slash runs into a comment mark, literals and block comments are
closed, and a line comment ends with its line. -/
def Apart : List Passage → Prop
  | [] => True
  | code c :: rest =>
    isQuote c = false ∧
      (c = '/' → (rest.flatMap chars).head? ≠ some '/' ∧ (rest.flatMap chars).head? ≠ some '*') ∧
      Apart rest
  | literal text :: rest => (Lexeme.literal text).IsWhole ∧ Apart rest
  | lineComment text :: rest =>
    (∃ body, text = '/' :: '/' :: body ∧ '\n' ∉ body) ∧
      (rest.flatMap chars = [] ∨ (rest.flatMap chars).head? = some '\n') ∧ Apart rest
  | blockComment text :: rest =>
    (∃ body, text = '/' :: '*' :: (body ++ ['*', '/']) ∧ ¬ ['*', '/'] <:+: body) ∧ Apart rest

instance (text : List Char) : Decidable (∃ body, text = '/' :: '/' :: body ∧ '\n' ∉ body) :=
  decidable_of_iff (text = '/' :: '/' :: text.drop 2 ∧ '\n' ∉ text.drop 2) <| by
    constructor
    · exact fun h ↦ ⟨_, h⟩
    · rintro ⟨body, rfl, h⟩
      exact ⟨rfl, h⟩

instance (text : List Char) : Decidable
    (∃ body, text = '/' :: '*' :: (body ++ ['*', '/']) ∧ ¬ ['*', '/'] <:+: body) :=
  decidable_of_iff (text = '/' :: '*' :: ((text.drop 2).dropLast.dropLast ++ ['*', '/']) ∧
      ¬ ['*', '/'] <:+: (text.drop 2).dropLast.dropLast) <| by
    constructor
    · exact fun h ↦ ⟨_, h⟩
    · rintro ⟨body, rfl, h⟩
      have hbody : (('/' :: '*' :: (body ++ ['*', '/'])).drop 2).dropLast.dropLast = body := by
        simp
      rw [hbody]
      exact ⟨rfl, h⟩

instance decidableApart : (ps : List Passage) → Decidable (Apart ps)
  | [] => inferInstanceAs (Decidable True)
  | code _ :: rest =>
    have := decidableApart rest
    inferInstanceAs (Decidable (_ ∧ _ ∧ _))
  | literal _ :: rest =>
    have := decidableApart rest
    inferInstanceAs (Decidable (_ ∧ _))
  | lineComment _ :: rest =>
    have := decidableApart rest
    inferInstanceAs (Decidable (_ ∧ _ ∧ _))
  | blockComment _ :: rest =>
    have := decidableApart rest
    inferInstanceAs (Decidable (_ ∧ _))

end Passage

theorem blockCommentTail_append_closed {body : List Char} (h : ¬ ['*', '/'] <:+: body)
    (more : List Char) :
    blockCommentTail (body ++ ['*', '/'] ++ more) = (body ++ ['*', '/'], more) := by
  induction body with
  | nil => simp [blockCommentTail]
  | cons c body ih =>
    have hbody : ¬ ['*', '/'] <:+: body := fun hinside ↦
      h (hinside.trans (List.infix_cons List.infix_rfl))
    have hnext : ∀ outside, ¬ (c = '*' ∧ body ++ ['*', '/'] ++ more = '/' :: outside) := by
      rintro outside ⟨rfl, hslash⟩
      cases body with
      | nil => cases hslash
      | cons d body =>
        cases hslash
        exact h ⟨[], body, rfl⟩
    rw [List.cons_append, List.cons_append, blockCommentTail]
    · rw [ih hbody]
    · exact fun outside hstar hslash ↦ hnext outside ⟨hstar, hslash⟩

theorem passages_lineComment {body rest : List Char} (h : '\n' ∉ body)
    (hrest : rest = [] ∨ rest.head? = some '\n') :
    passages ('/' :: '/' :: (body ++ rest)) =
      .lineComment ('/' :: '/' :: body) :: passages rest := by
  have hbody : ∀ c ∈ body, (c != '\n') = true := fun c hc ↦ by
    rw [bne_iff_ne]
    rintro rfl
    exact h hc
  have hstop : rest.takeWhile (· != '\n') = [] ∧ rest.dropWhile (· != '\n') = rest := by
    rcases hrest with rfl | hnewline
    · exact ⟨rfl, rfl⟩
    · obtain ⟨lines, rfl⟩ := List.head?_eq_some_iff.1 hnewline
      exact ⟨rfl, rfl⟩
  rw [passages, List.takeWhile_append_of_pos hbody, List.dropWhile_append_of_pos hbody,
    hstop.1, hstop.2, List.append_nil]

theorem passages_code {c : Char} {rest : List Char} (hquote : isQuote c = false)
    (hslash : c = '/' → rest.head? ≠ some '/' ∧ rest.head? ≠ some '*') :
    passages (c :: rest) = .code c :: passages rest := by
  rw [passages.eq_def]
  split
  · rename_i heq
    cases heq
  · rename_i heq
    cases heq
    exact absurd rfl (hslash rfl).1
  · rename_i heq
    cases heq
    exact absurd rfl (hslash rfl).2
  · rename_i heq
    cases heq
    rw [if_neg (by rw [hquote]; exact Bool.false_ne_true)]

theorem passages_quote {quote : Char} (hquote : isQuote quote = true) (rest : List Char) :
    passages (quote :: rest) =
      .literal (quote :: (literalTail quote rest).1) :: passages (literalTail quote rest).2 := by
  have hslash : quote ≠ '/' := by
    rintro rfl
    exact absurd hquote (by decide)
  rw [passages, if_pos hquote]
  · exact fun _ heq ↦ absurd heq hslash
  · exact fun _ heq ↦ absurd heq hslash

theorem passages_literal {quote : Char} {text : List Char} (hquote : isQuote quote = true)
    (hcloses : Closes quote text) (rest : List Char) :
    passages (quote :: (text ++ rest)) = .literal (quote :: text) :: passages rest := by
  rw [passages_quote hquote, literalTail_of_closes hcloses]

/-- Passages that are kept apart are read back. -/
theorem passages_flatMap_chars {ps : List Passage} (h : Passage.Apart ps) :
    passages (ps.flatMap Passage.chars) = ps := by
  induction ps with
  | nil => rw [List.flatMap_nil, passages]
  | cons p ps ih =>
    rw [List.flatMap_cons]
    cases p with
    | code c =>
      obtain ⟨hquote, hslash, hrest⟩ := h
      rw [Passage.chars, List.singleton_append, passages_code hquote hslash, ih hrest]
    | literal text =>
      obtain ⟨hwhole, hrest⟩ := h
      cases text with
      | nil => cases hwhole
      | cons quote text =>
        obtain ⟨hquote, hcloses⟩ := hwhole
        rw [Passage.chars, List.cons_append, passages_literal hquote hcloses, ih hrest]
    | lineComment text =>
      obtain ⟨⟨body, htext, hbody⟩, hend, hrest⟩ := h
      rw [Passage.chars, htext, List.cons_append, List.cons_append,
        passages_lineComment hbody hend, ih hrest]
    | blockComment text =>
      obtain ⟨⟨body, htext, hbody⟩, hrest⟩ := h
      rw [Passage.chars, htext, List.cons_append, List.cons_append, passages,
        blockCommentTail_append_closed hbody, ih hrest]

theorem flatten_lexemes (p : Passage) : flatten p.lexemes = p.kept := by
  cases p <;> simp [Passage.lexemes, Passage.kept, Lexeme.chars]

theorem isWhole_of_apart {ps : List Passage} (h : Passage.Apart ps) :
    ∀ l ∈ ps.flatMap Passage.lexemes, l.IsWhole := by
  induction ps with
  | nil =>
    intro l hl
    cases hl
  | cons p ps ih =>
    intro l hl
    cases p with
    | code c =>
      rcases List.mem_cons.1 hl with rfl | hl
      · exact h.1
      · exact ih h.2.2 l hl
    | literal text =>
      rcases List.mem_cons.1 hl with rfl | hl
      · exact h.1
      · exact ih h.2 l hl
    | lineComment text => exact ih h.2.2 l hl
    | blockComment text =>
      rcases List.mem_cons.1 hl with rfl | hl
      · rfl
      · exact ih h.2 l hl

/-! ## Texts without comments -/

/-- The mark that opens a comment stands outside of literals. -/
def HasCommentMark (ls : List Lexeme) : Prop :=
  ∃ c ∈ ['/', '*'], [.char '/', .char c] <:+: ls

theorem hasCommentMark_cons_iff {l : Lexeme} {ls : List Lexeme} : HasCommentMark (l :: ls) ↔
    l = .char '/' ∧ (ls.head? = some (.char '/') ∨ ls.head? = some (.char '*')) ∨
      HasCommentMark ls := by
  have hpair (c : Char) : [.char '/', .char c] <+: l :: ls ↔
      l = .char '/' ∧ ls.head? = some (.char c) := by
    cases ls <;> simp [List.cons_prefix_cons, eq_comm]
  simp only [HasCommentMark, List.infix_cons_iff, hpair, List.mem_cons, List.not_mem_nil,
    or_false, exists_eq_or_imp, exists_eq_left]
  tauto

theorem not_hasCommentMark_of_not_mem {ls : List Lexeme} (h : .char '/' ∉ ls) :
    ¬ HasCommentMark ls := by
  rintro ⟨c, -, hwithin⟩
  exact h (hwithin.subset List.mem_cons_self)

def Lexeme.passage : Lexeme → Passage
  | .char c => .code c
  | .literal text => .literal text

/-- Without the mark of a comment, a text is read as its lexemes. -/
theorem passages_of_not_hasCommentMark {text : List Char} (h : ¬ HasCommentMark (lex text)) :
    passages text = (lex text).map Lexeme.passage := by
  fun_induction lex text with
  | case1 => rw [passages, List.map_nil]
  | case2 c rest hquote ih =>
    rw [hasCommentMark_cons_iff, not_or] at h
    rw [passages_quote hquote, ih h.2, List.map_cons, Lexeme.passage]
  | case3 c rest hquote ih =>
    rw [hasCommentMark_cons_iff, not_or] at h
    have hnext {d : Char} (hd : isQuote d = false) (hhead : rest.head? = some d) :
        (lex rest).head? = some (.char d) := by
      obtain ⟨more, rfl⟩ := List.head?_eq_some_iff.1 hhead
      rw [lex, if_neg (Bool.eq_false_iff.1 hd), List.head?_cons]
    rw [passages_code (Bool.eq_false_iff.2 hquote), ih h.2, List.map_cons, Lexeme.passage]
    rintro rfl
    exact ⟨fun hhead ↦ h.1 ⟨rfl, .inl (hnext (by decide) hhead)⟩,
      fun hhead ↦ h.1 ⟨rfl, .inr (hnext (by decide) hhead)⟩⟩

theorem flatMap_kept_map_passage (ls : List Lexeme) :
    (ls.map Lexeme.passage).flatMap Passage.kept = flatten ls := by
  rw [List.flatMap_map, flatten]
  congr 1
  funext l
  cases l <;> rfl

/-- Nothing is taken out of a text without the mark of a comment. -/
theorem stripComments_of_not_hasCommentMark {text : List Char}
    (h : ¬ HasCommentMark (lex text)) : stripComments text = text := by
  rw [stripComments, passages_of_not_hasCommentMark h, flatMap_kept_map_passage, flatten_lex]

/-- A way to write lexemes with comments between them. -/
structure Layout (ls : List Lexeme) where
  passages : List Passage
  apart : Passage.Apart passages
  lexemes_eq : passages.flatMap Passage.lexemes = ls

namespace Layout

variable {ls : List Lexeme}

/-- The text that is laid out. -/
def text (layout : Layout ls) : List Char :=
  layout.passages.flatMap Passage.chars

theorem isWhole (layout : Layout ls) : ∀ l ∈ ls, l.IsWhole := by
  rw [← layout.lexemes_eq]
  exact isWhole_of_apart layout.apart

/-- Taking the comments out leaves the lexemes. -/
theorem stripComments_text (layout : Layout ls) : stripComments layout.text = flatten ls := by
  have hkept (ps : List Passage) :
      ps.flatMap Passage.kept = flatten (ps.flatMap Passage.lexemes) := by
    induction ps with
    | nil => rfl
    | cons p ps ih =>
      rw [List.flatMap_cons, List.flatMap_cons, flatten_append, flatten_lexemes, ih]
  rw [stripComments, text, passages_flatMap_chars layout.apart, hkept, layout.lexemes_eq]

end Layout

end EndpointStubs.Java
