import EndpointStubs.Proofs.Layout
import EndpointStubs.Proofs.SignatureReading

/-!
# Reading parameter lists

The brackets of a written declaration are closed where the declaration says so,
so that its parameter list is found as it was written, and is cut into its
parameters where the commas between them are the only ones outside of brackets.
-/

namespace EndpointStubs.Java.Written

theorem Unbracketed.balanced {ls : List Lexeme} (h : Unbracketed ls) : Balanced ls :=
  balanced_of_forall_not_mem h

theorem unbracketed_plain {p : Char → Bool} {chars : List Char}
    (hp : ['(', ')', '{', '}', ';'].any p = false) (h : ∀ c ∈ chars, p c = true) :
    Unbracketed (plain chars) := by
  intro l hl hmem
  obtain ⟨c, hc, rfl⟩ := List.mem_map.1 hl
  obtain ⟨d, hd, heq⟩ := List.mem_map.1 hmem
  cases heq
  exact List.any_eq_false.1 hp c hd (h c hc)

theorem Gap.balanced (gap : Gap) : Balanced (plain gap.chars) :=
  (unbracketed_plain (by decide) gap.blank).balanced

theorem Identifier.balanced (name : Identifier) : Balanced (plain name.chars) :=
  (unbracketed_plain (by decide) name.word).balanced

theorem QualifiedName.balanced (name : QualifiedName) : Balanced (plain name.chars) :=
  (unbracketed_plain (by decide) name.isWordOrDot).balanced

theorem balanced_nil : Balanced [] :=
  ⟨rfl, rfl⟩

theorem balanced_cons {l : Lexeme} {ls : List Lexeme}
    (hl : l ∉ ['(', ')', '{', '}', ';'].map Lexeme.char) (h : Balanced ls) :
    Balanced (l :: ls) := by
  have hhead : Unbracketed [l] := fun m hm ↦ by
    rw [List.mem_singleton.1 hm]
    exact hl
  exact hhead.balanced.append h

theorem AnnotationForm.balanced (a : AnnotationForm) : Balanced a.lexemes := by
  have harguments : Balanced a.argumentLexemes := by
    rw [argumentLexemes]
    cases a.arguments with
    | none => exact balanced_nil
    | some x =>
      exact x.1.balanced.append (balanced_parenthesized x.2.parens x.2.braces balanced_nil)
  exact balanced_cons (by decide) (a.gap.balanced.append (a.name.balanced.append harguments))

theorem Item.balanced (item : Item) : Balanced item.lexemes := by
  cases item with
  | annotated a gap => exact a.balanced.append gap.balanced
  | modifier word known gap =>
    have hword := unbracketed_plain (by decide) (modifiers_chars known).1
    exact hword.balanced.append gap.balanced

theorem Front.balanced (front : Front) : Balanced front.lexemes := by
  have hitems : ∀ items : List Item, Balanced (items.flatMap Item.lexemes) := by
    intro items
    induction items with
    | nil => exact balanced_nil
    | cons item items ih => exact item.balanced.append ih
  exact front.lead.balanced.append (hitems front.items)

theorem isBlank_eq_false_of_isQuote {c : Char} (h : isQuote c = true) : Text.isBlank c = false := by
  rw [isQuote, Bool.or_eq_true, beq_iff_eq, beq_iff_eq] at h
  rcases h with rfl | rfl <;> decide

namespace Parameter

variable {p : Parameter} {ps : List Parameter} {blanks : Gap}

/-- The brackets of a kind in a list of parameters are closed if those of each parameter are. -/
theorem closed_listLexemes {opener closer : Char} (hopener : opener ≠ ',') (hcloser : closer ≠ ',')
    (hblanks : Closed opener closer 0 (plain blanks.chars))
    (h : ∀ p ∈ ps, Closed opener closer 0 p.lexemes) :
    Closed opener closer 0 (listLexemes blanks ps) := by
  fun_induction listLexemes blanks ps with
  | case1 => exact hblanks
  | case2 p => exact h p List.mem_cons_self
  | case3 p q rest ih =>
    have hrest := ih fun r hr ↦ h r (List.mem_cons_of_mem _ hr)
    apply closed_append_zero (h p List.mem_cons_self)
    rw [Closed, if_neg fun heq ↦ hcloser (Lexeme.char.inj heq).symm,
      if_neg fun heq ↦ hopener (Lexeme.char.inj heq).symm]
    exact hrest

theorem parens_lexemes (p : Parameter) : Closed '(' ')' 0 p.lexemes := by
  have hname := p.gap.balanced.append p.name.balanced
  rw [← plain_append] at hname
  exact closed_append_zero p.front.balanced.parens
    (closed_append_zero (closed_append_zero p.parens hname.parens) p.trail.balanced.parens)

theorem braces_lexemes (p : Parameter) : Closed '{' '}' 0 p.lexemes := by
  have hname := p.gap.balanced.append p.name.balanced
  rw [← plain_append] at hname
  exact closed_append_zero p.front.balanced.braces
    (closed_append_zero (closed_append_zero p.braces hname.braces) p.trail.balanced.braces)

theorem parens_list (blanks : Gap) (ps : List Parameter) :
    Closed '(' ')' 0 (listLexemes blanks ps) :=
  closed_listLexemes (by decide) (by decide) blanks.balanced.parens fun p _ ↦ p.parens_lexemes

theorem braces_list (blanks : Gap) (ps : List Parameter) :
    Closed '{' '}' 0 (listLexemes blanks ps) :=
  closed_listLexemes (by decide) (by decide) blanks.balanced.braces fun p _ ↦ p.braces_lexemes

theorem startsDeclaration (p : Parameter) : StartsDeclaration p.declaration := by
  have hne : p.type ++ plain (p.gap.chars ++ p.name.chars) ≠ [] := by
    apply List.append_ne_nil_of_right_ne_nil
    exact plain_ne_nil (List.append_ne_nil_of_right_ne_nil _ p.name.ne_nil)
  apply startsDeclaration_append p.starts hne
  intro l hl
  obtain ⟨c, hc, rfl⟩ := List.mem_map.1 (List.mem_of_mem_head? hl)
  exact isModifierChar_eq_false_of_isBlank (p.trail.blank c hc)

theorem parameter?_lexemes (p : Parameter) (hwhole : ∀ l ∈ p.type, l.IsWhole) :
    parameter? p.lexemes = some p.parameter := by
  have hstart : ∀ c ∈ (flatten p.type).head?, Text.isBlank c = false := by
    have hhead := p.starts.1.1
    intro c hc
    cases htype : p.type with
    | nil =>
      rw [htype] at hc
      cases hc
    | cons l ls =>
      rw [htype] at hc hhead
      have hl := hwhole l (by rw [htype]; exact List.mem_cons_self)
      cases l with
      | char d =>
        cases hc
        exact (hhead _ rfl).1
      | literal text =>
        cases text with
        | nil => cases hl
        | cons quote text =>
          cases hc
          exact isBlank_eq_false_of_isQuote hl.1
  have hflatten : flatten p.declaration =
      flatten p.type ++ p.gap.chars ++ p.name.chars ++ p.trail.chars := by
    simp [declaration]
  rw [parameter?, lexemes, peelHeader_front p.front p.startsDeclaration]
  dsimp only
  rw [hflatten, typeAndName?_eq_some hstart p.ends]
  rfl

/-- There is neither a comma nor a bracket among blanks and words. -/
theorem neutral_plain {chars : List Char}
    (h : ∀ c ∈ chars, Text.isBlank c = true ∨ Text.isWord c = true) :
    ∀ l ∈ plain chars, l ≠ .char ',' ∧ level l = 0 := by
  have hmarks : [',', '(', '{', '<', ')', '}', '>'].any
      (fun c ↦ Text.isBlank c || Text.isWord c) = false := by
    decide
  intro l hl
  obtain ⟨c, hc, rfl⟩ := List.mem_map.1 hl
  have hnot : c ∉ [',', '(', '{', '<', ')', '}', '>'] := fun hmem ↦
    List.any_eq_false.1 hmarks c hmem (Bool.or_eq_true _ _ ▸ h c hc)
  simp only [List.mem_cons, List.not_mem_nil, or_false, not_or] at hnot
  obtain ⟨hcomma, hparen, hbrace, hangle, hparen', hbrace', hangle'⟩ := hnot
  refine ⟨fun heq ↦ hcomma (Lexeme.char.inj heq), ?_⟩
  simp [level, Lexeme.is, isOpening, isClosing, hparen, hbrace, hangle, hparen', hbrace', hangle']

theorem lexemes_eq (p : Parameter) : p.lexemes = p.front.lexemes ++
    (p.type ++ plain (p.gap.chars ++ p.name.chars ++ p.trail.chars)) := by
  simp [lexemes, declaration, plain_append]

theorem neutral_end (p : Parameter) :
    ∀ l ∈ plain (p.gap.chars ++ p.name.chars ++ p.trail.chars), l ≠ .char ',' ∧ level l = 0 := by
  apply neutral_plain
  intro c hc
  rcases List.mem_append.1 hc with hc | hc
  · exact (List.mem_append.1 hc).imp (p.gap.blank c) (p.name.word c)
  · exact .inl (p.trail.blank c hc)

theorem levels_lexemes (p : Parameter) : levels p.lexemes = levels p.front.lexemes := by
  have hzero := levels_eq_zero fun l hl ↦ (p.neutral_end l hl).2
  rw [lexemes_eq, levels_append, levels_append, p.levels_eq, hzero, Int.add_zero, Int.add_zero]

theorem noSplit_lexemes (hfront : NoSplit 0 p.front.lexemes)
    (hlevels : levels p.front.lexemes = 0) : NoSplit 0 p.lexemes := by
  rw [lexemes_eq, noSplit_append, noSplit_append, hlevels]
  exact ⟨hfront, p.noSplit, noSplit_of_forall (fun l hl ↦ (p.neutral_end l hl).1) _⟩

/-- Parameters are separated exactly if their list is cut as it is written. -/
theorem separated_iff (hne : ps ≠ []) :
    Separated ps ↔ commaPieces 0 (listLexemes blanks ps) = ps.map lexemes := by
  fun_induction listLexemes blanks ps with
  | case1 => exact absurd rfl hne
  | case2 p => exact ⟨commaPieces_eq_singleton, noSplit_of_commaPieces⟩
  | case3 p q rest ih =>
    have hrest := ih (List.cons_ne_nil q rest)
    constructor
    · rintro ⟨hfront, hlevels, hseparated⟩
      have hcomma : 0 + levels p.lexemes = 0 := by rw [p.levels_lexemes, hlevels, Int.add_zero]
      rw [commaPieces_append_comma (noSplit_lexemes hfront hlevels) hcomma, hrest.1 hseparated]
      rfl
    · intro hpieces
      obtain ⟨hsplit, hlevels⟩ := noSplit_of_commaPieces_comma hpieces
      rw [commaPieces_append_comma hsplit hlevels] at hpieces
      rw [Int.zero_add, p.levels_lexemes] at hlevels
      rw [lexemes_eq, noSplit_append] at hsplit
      exact ⟨hsplit.1, hlevels, hrest.2 (List.cons.inj hpieces).2⟩

theorem listItems_listLexemes (h : Separated ps) :
    listItems (listLexemes blanks ps) = ps.map lexemes := by
  rw [listItems]
  cases ps with
  | nil =>
    have hcomma : ∀ l ∈ plain blanks.chars, l ≠ .char ',' := fun l hl ↦
      (neutral_plain (fun c hc ↦ .inl (blanks.blank c hc)) l hl).1
    have hall : (plain blanks.chars).all Lexeme.isBlank = true := List.all_eq_true.2 blanks.isBlank
    rw [listLexemes, commaPieces_eq_singleton (noSplit_of_forall hcomma 0), List.filter_singleton,
      hall]
    rfl
  | cons p ps =>
    rw [(separated_iff (List.cons_ne_nil p ps)).1 h, List.filter_eq_self]
    intro piece hpiece
    obtain ⟨q, -, rfl⟩ := List.mem_map.1 hpiece
    rw [Bool.not_eq_true', List.all_eq_false]
    obtain ⟨c, cs, hchars, hword⟩ := q.name.exists_cons
    refine ⟨.char c, ?_, ?_⟩
    · simp [lexemes, declaration, plain, hchars]
    · rw [Lexeme.isBlank, Lexeme.is, Text.isBlank_eq_false_of_isWord hword]
      exact Bool.false_ne_true

theorem mem_listLexemes (hp : p ∈ ps) {l : Lexeme} (hl : l ∈ p.lexemes) :
    l ∈ listLexemes blanks ps := by
  fun_induction listLexemes blanks ps with
  | case1 => cases hp
  | case2 q =>
    rw [List.mem_singleton] at hp
    rwa [hp] at hl
  | case3 q r rest ih =>
    rcases List.mem_cons.1 hp with rfl | hp
    · exact List.mem_append_left _ hl
    · exact List.mem_append_right _ (List.mem_cons_of_mem _ (ih hp))

/-- The parameters of a list are read back. -/
theorem filterMap_parameter? (h : Separated ps)
    (hwhole : ∀ l ∈ listLexemes blanks ps, l.IsWhole) :
    (listItems (listLexemes blanks ps)).filterMap parameter? = ps.map parameter := by
  have htypes : ∀ p ∈ ps, ∀ l ∈ p.type, l.IsWhole := fun p hp l hl ↦
    hwhole l (mem_listLexemes hp (List.mem_append_right _
      (List.mem_append_left _ (List.mem_append_left _ hl))))
  rw [listItems_listLexemes h]
  clear h hwhole
  induction ps with
  | nil => rfl
  | cons p ps ih =>
    have hp := parameter?_lexemes p (htypes p List.mem_cons_self)
    have hps := ih fun q hq ↦ htypes q (List.mem_cons_of_mem _ hq)
    rw [List.map_cons, List.filterMap_cons, hp, hps]
    rfl

end Parameter

end EndpointStubs.Java.Written
