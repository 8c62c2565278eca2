import EndpointStubs.Proofs.InertText
import EndpointStubs.Proofs.Substitution
import EndpointStubs.Proofs.WrittenAttributes

/-!
# Escaped texts in literals

A text on one line is written into the generated classes as the content of a
string literal, with a backslash before each of its backslashes and double
quotes. Whatever the text holds, this is one literal for everything that reads
source text: for the lexer wherever a quote opens a literal, for the removal of
comments and for the reading of annotation arguments. The text is got back from
the content, so different texts have different literals. Other control
characters than the newline are written as they are; nothing is said about
whether a compiler takes them.
-/

namespace EndpointStubs

namespace Text

/-- A pattern of one character is replaced wherever the character stands. -/
theorem replaceAll_singleton (p : Char) (new text : List Char) :
    replaceAll [p] new text = text.flatMap fun c ↦ if c = p then new else [c] := by
  induction text with
  | nil => rw [replaceAll, List.flatMap_nil]
  | cons c text ih =>
    rw [List.flatMap_cons, ← ih]
    by_cases hc : c = p
    · have hafter : after? [p] (c :: text) = some text := by
        rw [hc, after?_eq_some_iff, List.singleton_append]
      rw [if_pos hc, replaceAll_of_after?_eq_some (List.cons_ne_nil p []) hafter]
    · have hafter : after? [p] (c :: text) = none := by
        rw [after?, if_neg (Ne.symm hc)]
      rw [if_neg hc, replaceAll_of_after?_eq_none hafter, List.singleton_append]

end Text

namespace Java

/-- Backslashes are escaped first, so that those before the quotes are not escaped again. -/
theorem escape_eq_replaceAll (text : List Char) :
    escape text =
      Text.replaceAll ['"'] ['\\', '"'] (Text.replaceAll ['\\'] ['\\', '\\'] text) := by
  rw [Text.replaceAll_singleton, Text.replaceAll_singleton, List.flatMap_assoc, escape]
  congr 1
  funext c
  by_cases hbackslash : c = '\\'
  · subst hbackslash
    rfl
  · by_cases hquote : c = '"'
    · subst hquote
      rfl
    · simp [escapeChar, hbackslash, hquote]

theorem escape_injective : Function.Injective escape := fun text other h ↦ by
  rw [← unescape_escape text, h, unescape_escape]

theorem escapeString_injective : Function.Injective escapeString := fun text other h ↦ by
  rw [escapeString, escapeString, String.ofList_inj] at h
  exact String.toList_inj.1 (escape_injective h)

/-- The literal that is written for a text. -/
def quoted (text : List Char) : List Char :=
  '"' :: (escape text ++ ['"'])

/-- A double quote behind the text is no part of a literal in it. -/
def OpensLiteral (before : List Char) : Prop :=
  lex (before ++ ['"']) = lex before ++ [.literal ['"']]

instance (before : List Char) : Decidable (OpensLiteral before) :=
  inferInstanceAs (Decidable (_ = _))

/-- What stands before a quote that opens a literal is read on its own. -/
theorem OpensLiteral.lex_append {before : List Char} (h : OpensLiteral before)
    (more : List Char) : lex (before ++ '"' :: more) = lex before ++ lex ('"' :: more) := by
  unfold OpensLiteral at h
  fun_induction lex before with
  | case1 => rfl
  | case2 c rest hquote ih =>
    rw [List.cons_append, lex, if_pos hquote, List.cons_append, List.cons.injEq,
      Lexeme.literal.injEq, List.cons.injEq] at h
    obtain ⟨⟨-, hinside⟩, hrest⟩ := h
    -- The literal that is read here ends in the text, with and without the quote behind it.
    have houtside : (literalTail c (rest ++ ['"'])).2 = (literalTail c rest).2 ++ ['"'] := by
      have hquoted := literalTail_append c (rest ++ ['"'])
      have hplain := literalTail_append c rest
      rw [hinside] at hquoted
      refine List.append_cancel_left (hquoted.trans ?_)
      rw [← List.append_assoc, hplain]
    have hne : (literalTail c (rest ++ ['"'])).2 ≠ [] := by
      rw [houtside]
      exact List.append_ne_nil_of_right_ne_nil _ (List.cons_ne_nil _ _)
    have hlonger := literalTail_append_right more hne
    rw [hinside, houtside, List.append_assoc, List.append_assoc, List.singleton_append] at hlonger
    rw [houtside] at hrest
    rw [List.cons_append, lex, if_pos hquote, hlonger, ih hrest, List.cons_append]
  | case3 c rest hquote ih =>
    rw [List.cons_append, lex, if_neg hquote, List.cons_append, List.cons.injEq] at h
    rw [List.cons_append, lex, if_neg hquote, ih h.2, List.cons_append]

section Quoted

variable {text : List Char} (h : '\n' ∉ text)
include h

theorem literalTail_escape (rest : List Char) :
    literalTail '"' (escape text ++ '"' :: rest) = (escape text ++ ['"'], rest) := by
  have htail := literalTail_of_closes (closes_escape h) rest
  rwa [List.append_assoc, List.singleton_append] at htail

theorem lex_quoted_append (rest : List Char) :
    lex (quoted text ++ rest) = .literal (quoted text) :: lex rest := by
  have hwhole : (Lexeme.literal (quoted text)).IsWhole := ⟨rfl, closes_escape h⟩
  exact lex_chars_append hwhole rest

theorem passages_quoted_append (rest : List Char) :
    passages (quoted text ++ rest) = .literal (quoted text) :: passages rest :=
  passages_literal rfl (closes_escape h) rest

/-- As the only argument of an annotation, the literal is its value, with the escapes. -/
theorem entries_attributes_quoted :
    (attributes (some (quoted text))).entries = [("value", [.ofList (escape text)])] := by
  have hline : '\n' ∉ escape text := fun hmem ↦ h (mem_of_mem_escape (by decide) hmem)
  let noGap : Written.Gap := ⟨[], List.forall_mem_nil _⟩
  let sum : Written.SumForm := ⟨⟨escape text, closes_escape h, hline⟩, []⟩
  let argument : Written.ArgumentForm := ⟨noGap, none, .single sum, noGap⟩
  have htext : argument.text = quoted text := by
    simp [argument, sum, noGap, Written.ArgumentForm.text, Written.ArgumentForm.lexemes,
      Written.ArgumentForm.assignment, Written.ValueForm.lexemes, Written.SumForm.lexemes,
      Written.StringForm.lexeme, Lexeme.chars, quoted]
  have hcontent : sum.content = escape text := Written.SumForm.content_of_others_eq_nil rfl
  have hentries := argument.entries_text
  rw [htext] at hentries
  rw [hentries, ← hcontent]
  rfl

end Quoted

/-- The content of the literal for a text on one line is the text with its backslashes and then its
quotes escaped, and the text is got back from it. The literal ends with its last quote, whatever
stands behind it, and it is one literal wherever its first quote opens one, for the lexer, between
comments and as the argument of an annotation. No other text has the same content. -/
theorem quoted_read_back {text : String} (h : '\n' ∉ text.toList) :
    let content := (escapeString text).toList
    let literal := '"' :: (content ++ ['"'])
    content = Text.replaceAll ['"'] ['\\', '"'] (Text.replaceAll ['\\'] ['\\', '\\'] text.toList) ∧
    (∀ rest, literalTail '"' (content ++ '"' :: rest) = (content ++ ['"'], rest)) ∧
    (∀ before rest, OpensLiteral before →
      lex (before ++ (literal ++ rest)) = lex before ++ .literal literal :: lex rest) ∧
    (∀ rest, passages (literal ++ rest) = .literal literal :: passages rest) ∧
    (attributes (some literal)).entries = [("value", [escapeString text])] ∧
    unescape content = text.toList ∧
    ∀ other, escapeString other = escapeString text → other = text := by
  intro content literal
  have hcontent : content = escape text.toList := String.toList_ofList
  have hliteral : literal = quoted text.toList := by
    rw [quoted, ← hcontent]
  rw [hliteral, hcontent]
  refine ⟨escape_eq_replaceAll _, literalTail_escape h, fun before rest hopens ↦ ?_,
    passages_quoted_append h, entries_attributes_quoted h, unescape_escape _,
    fun other heq ↦ escapeString_injective heq⟩
  have happend := hopens.lex_append (escape text.toList ++ ['"'] ++ rest)
  rw [← List.cons_append, ← quoted, lex_quoted_append h] at happend
  exact happend

/-- A text with escapes, the mark of a comment and an apostrophe, behind a literal and before
another one. -/
theorem quoted_read_back_marks :
    let text := "\\\"//'\\"
    let literal := "\"\\\\\\\"//'\\\\\"".toList
    '\n' ∉ text.toList ∧ OpensLiteral "f('\"', ".toList ∧
      lex ("f('\"', ".toList ++ (literal ++ ", \"\")".toList)) =
        lex "f('\"', ".toList ++ .literal literal :: lex ", \"\")".toList ∧
      (attributes (some literal)).entries = [("value", ["\\\\\\\"//'\\\\"])] := by
  have hline : '\n' ∉ "\\\"//'\\".toList := by decide
  have hopens : OpensLiteral "f('\"', ".toList := by decide +kernel
  obtain ⟨-, -, hlex, -, hentries, -, -⟩ := quoted_read_back hline
  exact ⟨hline, hopens, hlex _ _ hopens, hentries⟩

end Java

end EndpointStubs
