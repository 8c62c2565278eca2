import EndpointStubs.Proofs.HeaderReading
import EndpointStubs.Proofs.TypeSyntax
import EndpointStubs.Stub.ResponseType

/-!
# The names of response entities

Which texts are taken for a `ResponseEntity`, and what is taken for its argument.
The name may be qualified, and what follows it is empty or stands in angle
brackets. A blank in the name, or before the brackets, ends the name too early,
so that the text is taken for another type.
-/

namespace EndpointStubs

open Java Java.Written

def Java.Written.entityName : String :=
  "ResponseEntity"

/-- A name that ends in the name of the entity type, alone or behind a dot. -/
theorem last_text_of_after? {name : QualifiedName} {qualifier : List Char}
    (hafter : Text.after? "ResponseEntity".toList.reverse name.chars.reverse = some qualifier)
    (hdot : ∀ c ∈ qualifier.head?, c = '.') : name.last.text = entityName := by
  have hchars : name.chars = qualifier.reverse ++ "ResponseEntity".toList := by
    rw [← List.reverse_reverse name.chars, Text.after?_eq_some_iff.1 hafter, List.reverse_append,
      List.reverse_reverse]
  have hstop : ∀ c ∈ qualifier.reverse.getLast?, (c != '.') = false := by
    intro c hc
    rw [List.getLast?_reverse] at hc
    rw [hdot c hc]
    rfl
  have hlast : ∀ c ∈ "ResponseEntity".toList, (c != '.') = true := List.all_eq_true.1 rfl
  rw [← simpleName_chars, simpleName, hchars, Text.splitTrailing_append_stop hstop hlast,
    String.ofList_toList, entityName]

theorem after?_of_last_text {name : QualifiedName} (h : name.last.text = entityName) :
    Text.after? "ResponseEntity".toList.reverse name.chars.reverse =
      some (name.qualifiers.flatMap fun q ↦ q.chars ++ ['.']).reverse := by
  have hlast : name.last.chars = entityName.toList := by
    rw [← h, Identifier.text, String.toList_ofList]
  rw [Text.after?_eq_some_iff, QualifiedName.chars, hlast, List.reverse_append, entityName]

/-- The test for the name of the entity type, on a qualified name. -/
theorem isEntity_chars_iff (name : QualifiedName) :
    ((Text.after? "ResponseEntity".toList.reverse name.chars.reverse).any fun qualifier ↦
        qualifier.isEmpty || (qualifier.head? = some '.' && 2 ≤ qualifier.length)) = true ↔
      name.last.text = entityName := by
  constructor
  · intro h
    obtain ⟨qualifier, hafter, hqualifier⟩ := (Option.any_eq_true _ _).1 h
    refine last_text_of_after? hafter fun c hc ↦ ?_
    rw [Bool.or_eq_true, List.isEmpty_iff, Bool.and_eq_true, decide_eq_true_eq] at hqualifier
    rcases hqualifier with rfl | ⟨hhead, -⟩
    · cases hc
    · exact (Option.some.inj (hhead.symm.trans hc)).symm
  · intro h
    rw [after?_of_last_text h, Option.any_some]
    rcases List.eq_nil_or_concat name.qualifiers with hnil | ⟨qs, q, hqs⟩
    · rw [hnil]
      rfl
    · have hlength := List.length_pos_iff.2 q.ne_nil
      rw [hqs, List.concat_eq_append, List.flatMap_append, List.flatMap_singleton,
        ← List.append_assoc, List.reverse_concat]
      simp only [List.isEmpty_cons, Bool.false_or, List.head?_cons, decide_true, Bool.true_and,
        List.length_cons, List.length_reverse, List.length_append, decide_eq_true_eq]
      omega

section Names

variable {name : QualifiedName}

theorem responseEntityArgument?_of_ne (h : name.last.text ≠ entityName) {tail : List Char}
    (htail : ∀ c ∈ tail.head?, Text.isWordOrDot c = false) :
    responseEntityArgument? (name.chars ++ tail) = none := by
  have hentity := Bool.eq_false_iff.2 fun heq ↦ h ((isEntity_chars_iff name).1 heq)
  rw [responseEntityArgument?, Text.takeWhile_append_stop name.isWordOrDot htail, hentity]
  rfl

theorem responseEntityArgument?_name_of_ne (h : name.last.text ≠ entityName) :
    responseEntityArgument? name.chars = none := by
  have hstop : ∀ c ∈ ([] : List Char).head?, Text.isWordOrDot c = false := nofun
  have hnone := responseEntityArgument?_of_ne h hstop
  rwa [List.append_nil] at hnone

theorem responseEntityArgument?_name (h : name.last.text = entityName) :
    responseEntityArgument? name.chars = some [] := by
  have hnil : ∀ c ∈ ([] : List Char).head?, Text.isWordOrDot c = false := nofun
  have htake := Text.takeWhile_append_stop name.isWordOrDot hnil
  have hdrop := Text.dropWhile_append_stop name.isWordOrDot hnil
  rw [List.append_nil] at htake hdrop
  rw [responseEntityArgument?, htake, hdrop, (isEntity_chars_iff name).2 h]
  rfl

/-- The argument is what stands between the first bracket and the last. -/
theorem responseEntityArgument?_generic (h : name.last.text = entityName)
    {inside : List Char} (hline : '\n' ∉ inside) :
    responseEntityArgument? (name.chars ++ '<' :: (inside ++ ['>'])) = some inside := by
  have htail : ∀ c ∈ ('<' :: (inside ++ ['>'])).head?, Text.isWordOrDot c = false := by
    rintro c ⟨⟩
    decide
  have hcontains : inside.contains '\n' = false := by
    rwa [Bool.eq_false_iff, ne_eq, List.contains_iff_mem]
  rw [responseEntityArgument?, Text.takeWhile_append_stop name.isWordOrDot htail,
    Text.dropWhile_append_stop name.isWordOrDot htail, (isEntity_chars_iff name).2 h]
  simp only [Bool.not_true, Bool.false_eq_true, if_false, List.getLast?_concat,
    List.dropLast_concat, hcontains, Bool.not_false, and_self, if_true]

end Names

/-- A type that ends in another bracket is no entity. -/
theorem responseEntityArgument?_of_getLast {text : List Char} {c : Char}
    (hlast : text.getLast? = some c) (hbracket : c ≠ '>') (hword : Text.isWordOrDot c = false) :
    responseEntityArgument? text = none := by
  have hparts := List.takeWhile_append_dropWhile (p := Text.isWordOrDot) (l := text)
  rw [responseEntityArgument?]
  split
  · rfl
  · split
    · rename_i hdrop
      rw [hdrop, List.append_nil] at hparts
      have htext := List.mem_takeWhile_imp (hparts.symm ▸ List.mem_of_getLast? hlast)
      rw [hword] at htext
      cases htext
    · rename_i rest hdrop
      split
      · rename_i hcondition
        rw [hdrop] at hparts
        rw [← hparts, List.getLast?_append, List.getLast?_cons, hcondition.1, Option.getD_some,
          Option.some_or] at hlast
        exact absurd (Option.some.inj hlast).symm hbracket
      · rfl
    · rfl

namespace Java.Written

def TypeNames.qualified (names : TypeNames) : QualifiedName :=
  ⟨names.qualifiers.map TypeName.toIdentifier, names.last.toIdentifier⟩

theorem TypeNames.text_tokens (names : TypeNames) :
    TypeToken.text names.tokens = names.qualified.chars := by
  simp [TypeNames.tokens, TypeToken.text, TypeName.token, TypeToken.chars, qualified,
    QualifiedName.chars, List.flatMap_assoc, List.flatMap_map]

theorem TypeNames.isWordOrDot_tokens (names : TypeNames) :
    ∀ t ∈ names.tokens, ∀ c ∈ t.chars, Text.isWordOrDot c = true := by
  intro t ht c hc
  apply names.qualified.isWordOrDot
  rw [← names.text_tokens]
  exact List.mem_flatMap.2 ⟨t, ht, hc⟩

end Java.Written

theorem responseEntityArgument?_of_blank {before after : List Char} {b : Char}
    (hbefore : ∀ c ∈ before, Text.isWordOrDot c = true) (hb : Text.isBlank b = true) :
    responseEntityArgument? (before ++ b :: after) = none := by
  have hstop : ∀ c ∈ (b :: after).head?, Text.isWordOrDot c = false := by
    rintro c ⟨⟩
    exact isWordOrDot_eq_false_of_isBlank hb
  rw [responseEntityArgument?, Text.dropWhile_append_stop hbefore hstop]
  split
  · rfl
  · split
    · rename_i heq
      cases heq
    · rename_i heq
      cases heq
      cases hb
    · rfl

section Pieces

variable {pieces rest : List (Gap × TypeToken)}

/-- Where a blank stands between the tokens of a name, or behind it, the text is cut there. -/
theorem exists_blank_of_not_tight
    (hchars : ∀ x ∈ pieces.dropLast, ∀ c ∈ x.2.chars, Text.isWordOrDot c = true)
    (hgaps : ¬∀ x ∈ pieces, x.1.chars = []) :
    ∃ before b after, spell pieces = before ++ b :: after ∧
      (∀ c ∈ before, Text.isWordOrDot c = true) ∧ Text.isBlank b = true := by
  induction pieces with
  | nil => exact absurd (fun x hx ↦ absurd hx List.not_mem_nil) hgaps
  | cons x pieces ih =>
    rw [spell, List.flatMap_cons, ← spell]
    -- The blank stands before the first token, or somewhere behind it.
    cases hgap : x.1.chars with
    | cons b blanks =>
      refine ⟨[], b, _, rfl, fun c hc ↦ absurd hc List.not_mem_nil, x.1.blank b ?_⟩
      rw [hgap]
      exact List.mem_cons_self
    | nil =>
      rw [List.forall_mem_cons, not_and] at hgaps
      have hgaps := hgaps hgap
      have hne : pieces ≠ [] := by
        rintro rfl
        exact hgaps fun y hy ↦ absurd hy List.not_mem_nil
      rw [List.dropLast_cons_of_ne_nil hne, List.forall_mem_cons] at hchars
      obtain ⟨before, b, after, hspell, hbefore, hb⟩ := ih hchars.2 hgaps
      refine ⟨x.2.chars ++ before, b, after, ?_, List.forall_mem_append.2 ⟨hchars.1, hbefore⟩, hb⟩
      rw [hspell, List.nil_append, List.append_assoc]

theorem responseEntityArgument?_of_not_tight
    (hchars : ∀ x ∈ pieces.dropLast, ∀ c ∈ x.2.chars, Text.isWordOrDot c = true)
    (hgaps : ¬∀ x ∈ pieces, x.1.chars = []) :
    responseEntityArgument? (spell (pieces ++ rest)) = none := by
  obtain ⟨before, b, after, hspell, hbefore, hb⟩ := exists_blank_of_not_tight hchars hgaps
  rw [spell_append, hspell, List.append_assoc, List.cons_append]
  exact responseEntityArgument?_of_blank hbefore hb

end Pieces

section Entity

variable {names : TypeNames} {front rest : List (Gap × TypeToken)}

theorem responseEntityArgument?_of_name_not_tight (hfront : front.map Prod.snd = names.tokens)
    (htight : ¬∀ x ∈ front, x.1.chars = []) :
    responseEntityArgument? (spell (front ++ rest)) = none := by
  refine responseEntityArgument?_of_not_tight (fun x hx ↦ ?_) htight
  apply names.isWordOrDot_tokens
  rw [← hfront]
  exact List.mem_map_of_mem (List.mem_of_mem_dropLast hx)

theorem responseEntityArgument?_spell_of_ne (hne : names.last.text ≠ entityName)
    (hfront : front.map Prod.snd = names.tokens)
    (hrest : ∀ c ∈ (spell rest).head?, Text.isWordOrDot c = false) :
    responseEntityArgument? (spell (front ++ rest)) = none := by
  by_cases htight : ∀ x ∈ front, x.1.chars = []
  · rw [spell_append, spell_eq_text htight, hfront, names.text_tokens]
    exact responseEntityArgument?_of_ne hne hrest
  · exact responseEntityArgument?_of_name_not_tight hfront htight

/-- A name is an entity without an argument if it is the name of one and is written without
blanks. -/
theorem responseEntityArgument?_spell_name (hfront : front.map Prod.snd = names.tokens) :
    responseEntityArgument? (spell front) = none ∨
      names.last.text = entityName ∧ responseEntityArgument? (spell front) = some [] := by
  by_cases htight : ∀ x ∈ front, x.1.chars = []
  · rw [spell_eq_text htight, hfront, names.text_tokens]
    by_cases hname : names.last.text = entityName
    · exact .inr ⟨hname, responseEntityArgument?_name hname⟩
    · have hne : names.qualified.last.text ≠ entityName := hname
      exact .inl (responseEntityArgument?_name_of_ne hne)
  · left
    rw [← List.append_nil front]
    exact responseEntityArgument?_of_name_not_tight hfront htight

/-- A word is no entity unless it is the name. -/
theorem responseEntityArgument?_word {chars : List Char} (hproper : (TypeToken.word chars).IsProper)
    (hne : String.ofList chars ≠ entityName) : responseEntityArgument? chars = none := by
  let name : QualifiedName := ⟨[], ⟨chars, hproper.1, hproper.2⟩⟩
  have hname : name.last.text ≠ entityName := hne
  exact responseEntityArgument?_name_of_ne hname

end Entity

end EndpointStubs
