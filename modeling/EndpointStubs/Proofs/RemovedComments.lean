import EndpointStubs.Proofs.ControllerMentions
import EndpointStubs.Proofs.InertText

/-!
# Texts without their comments

The rules for comments and literals, one for each kind of passage and what may
follow it: every text is read by them in exactly one way, also if its last
literal or comment is never closed. Taking the comments out leaves everything
else as it stands, and where the text around a comment meets, no new comment and
no new literal comes about. So a text without its comments has the literals that
it had before, nothing more is taken out of it, and it is scanned like the text
with them. The rules are about single characters: a backslash escapes whatever
stands behind it in a literal, also the end of a line.
-/

namespace EndpointStubs.Java

/-- A literal that was opened by the quote goes on through the text. -/
inductive RunsOn (quote : Char) : List Char → Prop
  | nil : RunsOn quote []
  | escaped (c : Char) {text : List Char} (h : RunsOn quote text) :
      RunsOn quote ('\\' :: c :: text)
  | plain {c : Char} {text : List Char} (hescape : c ≠ '\\') (hquote : c ≠ quote)
      (hline : c ≠ '\n') (h : RunsOn quote text) : RunsOn quote (c :: text)

/-- A literal that was opened by the quote ends with the text: by the same quote, by the end of the
line, or because nothing follows. -/
def EndsLiteral (quote : Char) (text rest : List Char) : Prop :=
  ∃ body, RunsOn quote body ∧
    (text = body ++ [quote] ∨ text = body ++ ['\n'] ∨
      rest = [] ∧ (text = body ∨ text = body ++ ['\\']))

/-- A block comment ends with the text: by the first closing mark, or because nothing follows. -/
def EndsBlockComment (text rest : List Char) : Prop :=
  (∃ body, text = body ++ ['*', '/'] ∧ ¬ ['*', '/'] <:+: body) ∨
    rest = [] ∧ ¬ ['*', '/'] <:+: text

/-- The text is read as these passages. -/
inductive IsReading : List Passage → List Char → Prop
  | nil : IsReading [] []
  | code {c : Char} {rest : List Char} {ps : List Passage} (hquote : isQuote c = false)
      (hslash : c = '/' → rest.head? ≠ some '/' ∧ rest.head? ≠ some '*') (h : IsReading ps rest) :
      IsReading (.code c :: ps) (c :: rest)
  | literal {quote : Char} {text rest : List Char} {ps : List Passage}
      (hquote : isQuote quote = true) (hend : EndsLiteral quote text rest)
      (h : IsReading ps rest) :
      IsReading (.literal (quote :: text) :: ps) (quote :: (text ++ rest))
  | lineComment {text rest : List Char} {ps : List Passage} (hline : '\n' ∉ text)
      (hend : rest = [] ∨ rest.head? = some '\n') (h : IsReading ps rest) :
      IsReading (.lineComment ('/' :: '/' :: text) :: ps) ('/' :: '/' :: (text ++ rest))
  | blockComment {text rest : List Char} {ps : List Passage} (hend : EndsBlockComment text rest)
      (h : IsReading ps rest) :
      IsReading (.blockComment ('/' :: '*' :: text) :: ps) ('/' :: '*' :: (text ++ rest))

section Literal

variable {quote : Char} {body text rest : List Char}

theorem literalTail_append_of_runsOn (h : RunsOn quote body) (more : List Char) :
    literalTail quote (body ++ more) =
      (body ++ (literalTail quote more).1, (literalTail quote more).2) := by
  induction h with
  | nil => rfl
  | escaped c _ ih =>
    rw [List.cons_append, List.cons_append, literalTail, if_pos rfl, ih]
    rfl
  | plain hescape hquote hline _ ih =>
    rw [List.cons_append, literalTail.eq_def]
    simp only [if_neg hescape, if_neg (not_or.2 ⟨hquote, hline⟩), ih]
    rfl

theorem literalTail_cons_of_end {c : Char} (hquote : isQuote quote = true)
    (hend : c = quote ∨ c = '\n') (rest : List Char) :
    literalTail quote (c :: rest) = ([c], rest) := by
  have hescape : c ≠ '\\' := by
    rcases hend with rfl | rfl
    · rintro rfl
      exact absurd hquote (by decide)
    · decide
  rw [literalTail.eq_def]
  simp only [if_neg hescape, if_pos hend]

/-- A literal is read as far as the rules say. -/
theorem EndsLiteral.literalTail_eq (h : EndsLiteral quote text rest)
    (hquote : isQuote quote = true) : literalTail quote (text ++ rest) = (text, rest) := by
  obtain ⟨body, hbody, rfl | rfl | ⟨rfl, rfl | rfl⟩⟩ := h
  · rw [List.append_assoc, literalTail_append_of_runsOn hbody, List.singleton_append,
      literalTail_cons_of_end hquote (.inl rfl)]
  · rw [List.append_assoc, literalTail_append_of_runsOn hbody, List.singleton_append,
      literalTail_cons_of_end hquote (.inr rfl)]
  · rw [literalTail_append_of_runsOn hbody, literalTail, List.append_nil]
  · rw [List.append_nil, literalTail_append_of_runsOn hbody, literalTail, if_pos rfl]

/-- What is read as a literal ends by the rules. -/
theorem endsLiteral_literalTail (quote : Char) (text : List Char) :
    EndsLiteral quote (literalTail quote text).1 (literalTail quote text).2 := by
  fun_induction literalTail quote text with
  | case1 => exact ⟨[], .nil, .inr (.inr ⟨rfl, .inl rfl⟩)⟩
  | case2 => exact ⟨[], .nil, .inr (.inr ⟨rfl, .inr rfl⟩)⟩
  | case3 escaped rest inside outside hrest ih =>
    rw [hrest] at ih
    obtain ⟨body, hbody, hend⟩ := ih
    refine ⟨'\\' :: escaped :: body, .escaped escaped hbody, ?_⟩
    simpa using hend
  | case4 c rest hescape hend =>
    rcases hend with rfl | rfl
    · exact ⟨[], .nil, .inl rfl⟩
    · exact ⟨[], .nil, .inr (.inl rfl)⟩
  | case5 c rest hescape hend inside outside hrest ih =>
    rw [hrest] at ih
    obtain ⟨body, hbody, hend'⟩ := ih
    rw [not_or] at hend
    refine ⟨c :: body, .plain hescape hend.1 hend.2 hbody, ?_⟩
    simpa using hend'

end Literal

theorem blockCommentTail_of_unclosed {text : List Char} (h : ¬ ['*', '/'] <:+: text) :
    blockCommentTail text = (text, []) := by
  fun_induction blockCommentTail text with
  | case1 => rfl
  | case2 outside => exact absurd ⟨[], outside, rfl⟩ h
  | case3 c rest inside outside _ hopen ih =>
    have hrest : ¬ ['*', '/'] <:+: rest := fun hwithin ↦
      h (hwithin.trans (List.suffix_cons c rest).isInfix)
    rw [ih hrest]

/-- A block comment is read as far as the rules say. -/
theorem EndsBlockComment.blockCommentTail_eq {text rest : List Char}
    (h : EndsBlockComment text rest) : blockCommentTail (text ++ rest) = (text, rest) := by
  rcases h with ⟨body, rfl, hbody⟩ | ⟨rfl, htext⟩
  · exact blockCommentTail_append_closed hbody rest
  · rw [List.append_nil, blockCommentTail_of_unclosed htext]

/-- What is read as a block comment ends by the rules. -/
theorem endsBlockComment_blockCommentTail (text : List Char) :
    EndsBlockComment (blockCommentTail text).1 (blockCommentTail text).2 := by
  fun_induction blockCommentTail text with
  | case1 => exact .inr ⟨rfl, by simp⟩
  | case2 outside => exact .inl ⟨[], rfl, by simp⟩
  | case3 c rest inside outside hrest hopen ih =>
    -- A closing mark that begins here would have ended the comment.
    have hnext : ¬ ['*', '/'] <+: c :: rest := by
      rintro ⟨more, hmore⟩
      cases hmore
      exact hopen more rfl rfl
    have happend : inside ++ outside = rest := by
      rw [← blockCommentTail_append rest, hrest]
    have hcons {body : List Char} (hstart : body <+: rest) (hbody : ¬ ['*', '/'] <:+: body) :
        ¬ ['*', '/'] <:+: c :: body := by
      rw [List.infix_cons_iff, not_or]
      exact ⟨fun h ↦ hnext (h.trans ((List.prefix_cons_inj c).2 hstart)), hbody⟩
    rw [hrest] at ih ⊢
    rcases ih with ⟨body, rfl, hbody⟩ | ⟨rfl, hinside⟩
    · refine .inl ⟨c :: body, rfl, hcons ⟨['*', '/'] ++ outside, ?_⟩ hbody⟩
      rw [← happend, List.append_assoc]
    · exact .inr ⟨rfl, hcons ⟨[], happend⟩ hinside⟩

/-! ## Every text has one reading -/

theorem IsReading.passages_eq {ps : List Passage} {text : List Char} (h : IsReading ps text) :
    passages text = ps := by
  induction h with
  | nil => rw [passages]
  | code hquote hslash _ ih => rw [passages_code hquote hslash, ih]
  | literal hquote hend _ ih => rw [passages_quote hquote, hend.literalTail_eq hquote, ih]
  | lineComment hline hend _ ih => rw [passages_lineComment hline hend, ih]
  | blockComment hend _ ih => rw [passages, hend.blockCommentTail_eq, ih]

theorem isReading_passages (text : List Char) : IsReading (passages text) text := by
  fun_induction passages text with
  | case1 => exact .nil
  | case2 rest ih =>
    have hline : '\n' ∉ rest.takeWhile (· != '\n') := fun hmem ↦
      absurd (List.mem_takeWhile_imp hmem) (by decide)
    have hend : rest.dropWhile (· != '\n') = [] ∨
        (rest.dropWhile (· != '\n')).head? = some '\n' := by
      cases hrest : rest.dropWhile (· != '\n') with
      | nil => exact .inl rfl
      | cons c lines =>
        have hnewline := List.head?_dropWhile_not (· != '\n') rest
        rw [hrest, List.head?_cons] at hnewline
        right
        simpa using hnewline
    have h := IsReading.lineComment hline hend ih
    rwa [List.takeWhile_append_dropWhile] at h
  | case3 rest ih =>
    have h := IsReading.blockComment (endsBlockComment_blockCommentTail rest) ih
    rwa [blockCommentTail_append] at h
  | case4 c rest hline hblock hquote ih =>
    have h := IsReading.literal hquote (endsLiteral_literalTail c rest) ih
    rwa [literalTail_append] at h
  | case5 c rest hline hblock hquote ih =>
    refine .code (Bool.eq_false_iff.2 hquote) (fun hslash ↦ ⟨fun hhead ↦ ?_, fun hhead ↦ ?_⟩) ih
    · obtain ⟨more, rfl⟩ := List.head?_eq_some_iff.1 hhead
      exact hline more hslash rfl
    · obtain ⟨more, rfl⟩ := List.head?_eq_some_iff.1 hhead
      exact hblock more hslash rfl

theorem isReading_iff {ps : List Passage} {text : List Char} :
    IsReading ps text ↔ ps = passages text :=
  ⟨fun h ↦ h.passages_eq.symm, fun h ↦ h ▸ isReading_passages text⟩

/-- Passages that come first in a text give no character that does not come first there. -/
theorem IsReading.head?_lexemes {ps : List Passage} {text : List Char} (h : IsReading ps text)
    {c : Char} (hslash : text.head? ≠ some '/')
    (hhead : (ps.flatMap Passage.lexemes).head? = some (.char c)) : text.head? = some c := by
  cases h with
  | nil => cases hhead
  | code =>
    cases hhead
    rfl
  | literal => cases hhead
  | lineComment | blockComment => exact absurd rfl hslash

theorem IsReading.not_hasCommentMark {ps : List Passage} {text : List Char}
    (h : IsReading ps text) : ¬ HasCommentMark (ps.flatMap Passage.lexemes) := by
  induction h with
  | nil => exact not_hasCommentMark_of_not_mem List.not_mem_nil
  | @code c rest ps hquote hslash h ih =>
    rw [List.flatMap_cons, Passage.lexemes, List.singleton_append, hasCommentMark_cons_iff, not_or]
    refine ⟨?_, ih⟩
    rintro ⟨heq, hhead⟩
    obtain ⟨hline, hblock⟩ := hslash (Lexeme.char.inj heq)
    exact hhead.elim (fun hhead ↦ hline (h.head?_lexemes hline hhead))
      fun hhead ↦ hblock (h.head?_lexemes hline hhead)
  | literal _ _ _ ih | blockComment _ _ ih =>
    rw [List.flatMap_cons, Passage.lexemes, List.singleton_append, hasCommentMark_cons_iff, not_or]
    exact ⟨fun hmark ↦ absurd hmark.1 (by simp), ih⟩
  | lineComment _ _ _ ih => exact ih

theorem not_hasCommentMark_stripComments (text : List Char) :
    ¬ HasCommentMark (lex (stripComments text)) := by
  rw [lex_stripComments]
  exact (isReading_passages text).not_hasCommentMark

theorem stripComments_stripComments (text : List Char) :
    stripComments (stripComments text) = stripComments text :=
  stripComments_of_not_hasCommentMark (not_hasCommentMark_stripComments text)

def Lexeme.literal? : Lexeme → Option (List Char)
  | .char _ => none
  | .literal text => some text

def Passage.literal? : Passage → Option (List Char)
  | .literal text => some text
  | _ => none

theorem filterMap_literal?_lexemes (ps : List Passage) :
    (ps.flatMap Passage.lexemes).filterMap Lexeme.literal? = ps.filterMap Passage.literal? := by
  induction ps with
  | nil => rfl
  | cons p ps ih =>
    rw [List.flatMap_cons, List.filterMap_append, ih]
    cases p <;> rfl

/-- Every text is read in one way. Without its comments it is that text with a space for each block
comment and nothing for each line comment, it has the literals of that text, no mark that opens a
comment is left outside of them, and so nothing more is taken out. It is scanned as before. -/
theorem only_comments_removed (text : List Char) :
    let bare := stripComments text
    (∃ ps, (∀ qs, IsReading qs text ↔ qs = ps) ∧ ps.flatMap Passage.chars = text ∧
      bare = ps.flatMap Passage.kept ∧
      (lex bare).filterMap Lexeme.literal? = ps.filterMap Passage.literal?) ∧
    ¬ HasCommentMark (lex bare) ∧
    stripComments bare = bare ∧
    scan (.ofList bare) = scan (.ofList text) := by
  intro bare
  have hbare : stripComments bare = bare := stripComments_stripComments text
  refine ⟨⟨passages text, fun qs ↦ isReading_iff, flatMap_chars_passages text, rfl, ?_⟩,
    not_hasCommentMark_stripComments text, hbare, ?_⟩
  · rw [lex_stripComments, filterMap_literal?_lexemes]
  · rw [scan, scan, Outline.ofText, Outline.ofText, String.toList_ofList, String.toList_ofList,
      hbare]

end EndpointStubs.Java
