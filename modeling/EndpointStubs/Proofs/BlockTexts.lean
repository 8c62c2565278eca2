import EndpointStubs.Proofs.ControllerMentions
import EndpointStubs.Proofs.ImportReading

/-!
# Texts of blocks

What stands before a brace outside of comments and literals is read in the same
way whatever comes behind the brace: its passages, and the package and the
imports that it declares.
-/

namespace EndpointStubs.Java

open Written

/-- A comment that ends before the text does ends there in any longer text. -/
theorem blockCommentTail_append_right {text : List Char} (more : List Char)
    (h : (blockCommentTail text).2 ≠ []) :
    blockCommentTail (text ++ more) =
      ((blockCommentTail text).1, (blockCommentTail text).2 ++ more) := by
  fun_induction blockCommentTail text with
  | case1 => exact absurd rfl h
  | case2 outside => rfl
  | case3 c rest inside outside hrest hopen ih =>
    have hlonger : ∀ outside, c = '*' → rest ++ more = '/' :: outside → False := by
      intro _ hstar hslash
      cases rest with
      | nil =>
        cases hrest
        exact h rfl
      | cons d rest =>
        cases hslash
        exact hopen rest hstar rfl
    rw [List.cons_append, blockCommentTail]
    · rw [ih h]
    · exact hlonger

/-- A passage that ends before the text does ends there in any longer text. -/
theorem passages_append_right {text : List Char} {p : Passage} {ps : List Passage}
    (h : passages text = p :: ps) (hne : ps ≠ []) (more : List Char) :
    passages (text ++ more) = p :: passages (ps.flatMap Passage.chars ++ more) := by
  have ne_nil {rest : List Char} (hrest : passages rest ≠ []) : rest ≠ [] := by
    rintro rfl
    rw [passages] at hrest
    exact hrest rfl
  rw [passages.eq_def] at h
  split at h
  · cases h
  · rename_i rest
    obtain ⟨rfl, rfl⟩ := List.cons.inj h
    have hdrop : ¬(rest.dropWhile (· != '\n')).isEmpty = true := fun hempty ↦
      ne_nil hne (List.isEmpty_iff.1 hempty)
    have htake : ¬(rest.takeWhile (· != '\n')).length = rest.length := by
      intro hlength
      have hsplit := congrArg List.length
        (List.takeWhile_append_dropWhile (p := (· != '\n')) (l := rest))
      rw [List.length_append, hlength] at hsplit
      exact hdrop (List.isEmpty_iff.2 (List.length_eq_zero_iff.1 (by omega)))
    rw [List.cons_append, List.cons_append, passages, List.takeWhile_append, if_neg htake,
      List.dropWhile_append, if_neg hdrop, flatMap_chars_passages]
  · rename_i rest
    obtain ⟨rfl, rfl⟩ := List.cons.inj h
    rw [List.cons_append, List.cons_append, passages,
      blockCommentTail_append_right more (ne_nil hne), flatMap_chars_passages]
  · rename_i c rest hline hblock
    split at h
    · rename_i hquote
      obtain ⟨rfl, rfl⟩ := List.cons.inj h
      rw [List.cons_append, passages_quote hquote, literalTail_append_right more (ne_nil hne),
        flatMap_chars_passages]
    · rename_i hquote
      obtain ⟨rfl, rfl⟩ := List.cons.inj h
      obtain ⟨d, rest, rfl⟩ := List.exists_cons_of_ne_nil (ne_nil hne)
      rw [flatMap_chars_passages]
      refine passages_code (Bool.eq_false_iff.2 hquote) fun hslash ↦ ⟨?_, ?_⟩
      · intro hd
        cases hd
        exact hline rest hslash rfl
      · intro hd
        cases hd
        exact hblock rest hslash rfl

/-- What is read before a passage is read so in any longer text. -/
theorem passages_append {text : List Char} {before after : List Passage}
    (h : passages text = before ++ after) (hne : after ≠ []) (more : List Char) :
    passages (text ++ more) = before ++ passages (after.flatMap Passage.chars ++ more) := by
  induction before generalizing text with
  | nil =>
    rw [List.nil_append] at h
    rw [← h, flatMap_chars_passages, List.nil_append]
  | cons p before ih =>
    have hcons : passages text = p :: (before ++ after) := h
    have hrest : passages ((before ++ after).flatMap Passage.chars) = before ++ after :=
      passages_flatMap_chars_of_append (show passages text = [p] ++ (before ++ after) from h)
    rw [passages_append_right hcons (List.append_ne_nil_of_right_ne_nil before hne), ih hrest,
      List.cons_append]

/-- The text ends outside of comments and literals, so that the character behind it is code. -/
def IsCodeAfter (text : List Char) (c : Char) : Prop :=
  passages (text ++ [c]) = passages text ++ [.code c]

instance (text : List Char) (c : Char) : Decidable (IsCodeAfter text c) :=
  inferInstanceAs (Decidable (_ = _))

section Brace

variable {text : List Char} {c : Char} (h : IsCodeAfter text c) (hquote : isQuote c = false)
  (hslash : c ≠ '/') (more : List Char)
include h hquote hslash

theorem IsCodeAfter.passages_append :
    passages (text ++ c :: more) = passages text ++ .code c :: passages more := by
  have hlonger := Java.passages_append h (List.cons_ne_nil _ _) more
  rwa [List.append_assoc, List.singleton_append, List.flatMap_singleton, Passage.chars,
    List.singleton_append, passages_code hquote fun heq ↦ absurd heq hslash] at hlonger

theorem IsCodeAfter.stripComments_append :
    stripComments (text ++ c :: more) = stripComments text ++ c :: stripComments more := by
  rw [stripComments, h.passages_append hquote hslash, List.flatMap_append, List.flatMap_cons]
  rfl

theorem IsCodeAfter.lex_stripComments_append :
    lex (stripComments (text ++ c :: more)) =
      lex (stripComments text) ++ .char c :: lex (stripComments more) := by
  simp only [lex_stripComments, h.passages_append hquote hslash, List.flatMap_append,
    List.flatMap_cons]
  rfl

end Brace

theorem after?_append_cons {pattern : List Char} {d : Char} (hd : d ∉ pattern)
    (text more : List Char) : Text.after? pattern (text ++ d :: more) =
      (Text.after? pattern text).map (· ++ d :: more) := by
  fun_induction Text.after? pattern text with
  | case1 text => rfl
  | case2 p pattern =>
    have hne : p ≠ d := by
      rintro rfl
      exact hd List.mem_cons_self
    rw [List.nil_append, Text.after?, if_neg hne]
    rfl
  | case3 p pattern text ih =>
    rw [List.cons_append, Text.after?, if_pos rfl, ih fun hmem ↦ hd (List.mem_cons_of_mem _ hmem)]
  | case4 p pattern c text hne =>
    rw [List.cons_append, Text.after?, if_neg hne]
    rfl

section Brace

variable (text more : List Char)

theorem afterKeyword?_append_brace {keyword : String} (h : '{' ∉ keyword.toList) :
    afterKeyword? keyword (text ++ '{' :: more) =
      (afterKeyword? keyword text).map (· ++ '{' :: more) := by
  have hblank : Text.isBlank '{' = false := by decide
  rw [afterKeyword?, afterKeyword?, Text.trimStart, Text.dropWhile_append_cons hblank,
    after?_append_cons h, Text.trimStart]
  cases Text.after? keyword.toList (text.dropWhile Text.isBlank) with
  | none => rfl
  | some rest =>
    simp only [Option.map_some, Text.takeWhile_append_cons hblank, Text.trimStart,
      Text.dropWhile_append_cons hblank]
    split <;> rfl

theorem afterSemicolon?_append_brace : afterSemicolon? (text ++ '{' :: more) =
    (afterSemicolon? text).map (· ++ '{' :: more) := by
  rw [afterSemicolon?, afterSemicolon?, Text.trimStart, Text.dropWhile_append_cons (by decide),
    Text.trimStart]
  cases text.dropWhile Text.isBlank with
  | nil => rfl
  | cons c rest =>
    rw [List.cons_append]
    split
    · rename_i heq
      cases heq
      rfl
    · rename_i hne
      split
      · rename_i heq
        cases heq
        exact absurd rfl (hne _)
      · rfl

/-- Whether a line declares the package is clear before a brace. -/
theorem packageLine?_append_brace : packageLine? (text ++ '{' :: more) = packageLine? text := by
  have hname : Text.isWordOrDot '{' = false := by decide
  rw [packageLine?, packageLine?, afterKeyword?_append_brace _ _ (by decide)]
  cases afterKeyword? "package" text with
  | none => rfl
  | some rest =>
    simp only [Option.map_some, Option.bind_eq_bind, Option.bind_some,
      Text.takeWhile_append_cons hname, Text.dropWhile_append_cons hname,
      afterSemicolon?_append_brace]
    cases afterSemicolon? (rest.dropWhile Text.isWordOrDot) <;> rfl

theorem isStaticImport_append_brace :
    isStaticImport (text ++ '{' :: more) = isStaticImport text := by
  rw [isStaticImport, isStaticImport, after?_append_cons (by decide)]
  cases Text.after? "static".toList text with
  | none => rfl
  | some rest =>
    cases rest with
    | nil => rfl
    | cons c rest => rfl

/-- The import that a line declares is known before a brace. -/
theorem importLine?_append_brace : importLine? (text ++ '{' :: more) =
    (importLine? text).map fun (name, after) ↦ (name, after ++ '{' :: more) := by
  have hname : Text.isWordOrDot '{' = false := by decide
  rw [importLine?, importLine?, afterKeyword?_append_brace _ _ (by decide)]
  cases afterKeyword? "import" text with
  | none => rfl
  | some rest =>
    simp only [Option.map_some, isStaticImport_append_brace, Text.takeWhile_append_cons hname,
      Text.dropWhile_append_cons hname, afterSemicolon?_append_brace]
    split
    · rfl
    · generalize rest.dropWhile Text.isWordOrDot = tail
      have hsemicolon := afterSemicolon?_append_brace tail.tail more
      cases hafter : afterSemicolon? tail with
      | some after => rfl
      | none =>
        cases tail with
        | nil => rfl
        | cons c rest =>
          rw [List.tail_cons] at hsemicolon
          by_cases hstar : c = '*'
          · subst hstar
            simp only [List.cons_append, Option.map_none, hsemicolon]
            split
            · cases afterSemicolon? rest <;> rfl
            · rfl
          · simp [hstar]

theorem importsFrom_append_brace (lineStart : Bool) :
    importsFrom lineStart (text ++ '{' :: more) =
      importsFrom lineStart text ++ importsFrom false more := by
  fun_induction importsFrom lineStart text with
  | case1 lineStart =>
    exact importsFrom_cons_of_none fun _ ↦ importLine?_append_brace [] more
  | case2 lineStart c rest name after hline ih =>
    split at hline
    · rename_i hstart
      subst hstart
      have hread := importLine?_append_brace (c :: rest) more
      rw [hline] at hread
      rw [List.cons_append] at hread ⊢
      rw [importsFrom_of_some hread, ih, List.cons_append]
    · cases hline
  | case3 lineStart c rest hline ih =>
    rw [List.cons_append, importsFrom_cons_of_none, ih]
    intro hstart
    rw [dif_pos hstart] at hline
    rw [← List.cons_append, importLine?_append_brace, hline]
    rfl

end Brace

section Block

variable {body : List Char} (hquiet : Quiet body) (before after : List Char)
include hquiet

theorem firstWord_of_quiet {line : List Char} (hline : line ∈ lineStarts.newlineTails body) :
    firstWord (Text.trimStart (line ++ '}' :: after)) ∉ ["package", "import"] := by
  rw [firstWord_trimStart_append (by decide) (by decide)]
  exact hquiet line hline

theorem imports_block : imports (before ++ '{' :: (body ++ '}' :: after)) =
    imports (before ++ '{' :: '}' :: after) := by
  have hbody : importsFrom false (body ++ '}' :: after) = importsFrom false ('}' :: after) := by
    rw [importsFrom_append (fun hstart ↦ absurd hstart Bool.false_ne_true),
      importsFrom_cons_of_none fun hstart ↦ absurd hstart Bool.false_ne_true]
    intro line hline
    apply importLine?_eq_none
    intro heq
    exact firstWord_of_quiet hquiet after hline (by rw [heq]; decide)
  rw [imports, importsFrom_append_brace, hbody, imports, importsFrom_append_brace]

theorem packageName_block : packageName (before ++ '{' :: (body ++ '}' :: after)) =
    packageName (before ++ '{' :: '}' :: after) := by
  have hbefore (rest : List Char) :
      (lineStarts (before ++ '{' :: rest)).findSome? packageLine? =
        ((lineStarts before).findSome? packageLine?).or
          ((lineStarts.newlineTails rest).findSome? packageLine?) := by
    have htails : lineStarts.newlineTails ('{' :: rest) = lineStarts.newlineTails rest := rfl
    have hlines : packageLine? ∘ (· ++ '{' :: rest) = packageLine? :=
      funext fun line ↦ packageLine?_append_brace line rest
    rw [lineStarts, newlineTails_append, htails, List.findSome?_cons, packageLine?_append_brace,
      List.findSome?_append, List.findSome?_map, hlines, lineStarts, List.findSome?_cons]
    cases packageLine? before <;> rfl
  have hnone : ((lineStarts.newlineTails body).map (· ++ '}' :: after)).findSome? packageLine? =
      none := by
    rw [List.findSome?_eq_none_iff]
    intro line hline
    obtain ⟨start, hstart, rfl⟩ := List.mem_map.1 hline
    apply packageLine?_eq_none
    intro heq
    exact firstWord_of_quiet hquiet after hstart (by rw [heq]; decide)
  rw [packageName, hbefore, newlineTails_append, List.findSome?_append, hnone, Option.none_or,
    packageName, hbefore]

end Block

end EndpointStubs.Java
