import EndpointStubs.Proofs.TextRuns
import EndpointStubs.Proofs.WrittenSource
import Mathlib.Data.List.Basic

/-!
# Reading headers

The annotations and modifiers that are written before a declaration are peeled
off one after the other, and the declaration is what remains.
-/

namespace EndpointStubs.Java

section Peel

variable {header rest : List Lexeme}

theorem peelHeader_of_annotated {a : AnnotationUse} (h : peel header = .annotated a rest) :
    peelHeader header = (a :: (peelHeader rest).1, (peelHeader rest).2) := by
  rw [peelHeader]
  split
  · rename_i heq
    rw [h] at heq
    cases heq
    rfl
  · rename_i heq
    rw [h] at heq
    cases heq
  · rename_i heq
    rw [h] at heq
    cases heq

theorem peelHeader_of_ignored (h : peel header = .ignored rest) :
    peelHeader header = peelHeader rest := by
  rw [peelHeader]
  split
  · rename_i heq
    rw [h] at heq
    cases heq
  · rename_i heq
    rw [h] at heq
    cases heq
    rfl
  · rename_i heq
    rw [h] at heq
    cases heq

theorem peelHeader_of_declaration (h : peel header = .declaration rest) :
    peelHeader header = ([], rest) := by
  rw [peelHeader]
  split
  · rename_i heq
    rw [h] at heq
    cases heq
  · rename_i heq
    rw [h] at heq
    cases heq
  · rename_i heq
    rw [h] at heq
    cases heq
    rfl

theorem suffix_of_peel_ignored (h : peel header = .ignored rest) : rest <:+ header := by
  cases header with
  | nil => cases h
  | cons l ls =>
    rw [peel] at h
    split at h
    · cases h
      exact List.suffix_cons l rest
    · split at h
      · exact absurd h (peelAnnotated_ne_ignored _ _ _)
      · dsimp only at h
        split at h
        · cases h
          exact List.dropWhile_suffix _
        · cases h

theorem peel_ne_annotated (h : .char '@' ∉ header) (a : AnnotationUse) :
    peel header ≠ .annotated a rest := by
  intro hpeel
  cases header with
  | nil => cases hpeel
  | cons l ls =>
    have hl : l ≠ .char '@' := by
      rintro rfl
      exact h List.mem_cons_self
    rw [peel, if_neg hl] at hpeel
    split at hpeel
    · cases hpeel
    · dsimp only at hpeel
      split at hpeel <;> cases hpeel

/-- A header without an at sign has no annotations. -/
theorem peelHeader_fst_eq_nil (h : .char '@' ∉ header) : (peelHeader header).1 = [] := by
  fun_induction peelHeader header with
  | case1 header a rest hpeel => exact absurd hpeel (peel_ne_annotated h a)
  | case2 header rest hpeel ih => exact ih fun hmem ↦ h ((suffix_of_peel_ignored hpeel).subset hmem)
  | case3 header rest hpeel => rfl

end Peel

namespace Written

theorem plain_append (xs ys : List Char) : plain (xs ++ ys) = plain xs ++ plain ys :=
  List.map_append

@[simp]
theorem flatten_plain (xs : List Char) : flatten (plain xs) = xs := by
  induction xs with
  | nil => rfl
  | cons c xs ih =>
    rw [plain, List.map_cons, flatten_cons, ← plain, ih]
    rfl

theorem plain_ne_nil {xs : List Char} (h : xs ≠ []) : plain xs ≠ [] := by
  rw [plain, ne_eq, List.map_eq_nil_iff]
  exact h

theorem is_of_mem_plain {p : Char → Bool} {xs : List Char} (h : ∀ c ∈ xs, p c = true) :
    ∀ l ∈ plain xs, l.is p = true := by
  intro l hl
  obtain ⟨c, hc, rfl⟩ := List.mem_map.1 hl
  exact h c hc

theorem Gap.isBlank (gap : Gap) : ∀ l ∈ plain gap.chars, l.isBlank = true :=
  is_of_mem_plain gap.blank

/-- Blanks end a word, and so does what follows them if there are none. -/
theorem Gap.is_head_eq_false {p : Char → Bool} (hp : ∀ c, Text.isBlank c = true → p c = false)
    (gap : Gap) {rest : List Lexeme}
    (hrest : gap.chars = [] → ∀ l ∈ rest.head?, l.is p = false) :
    ∀ l ∈ (plain gap.chars ++ rest).head?, l.is p = false := by
  cases hchars : gap.chars with
  | nil => exact hrest hchars
  | cons c cs =>
    intro l hl
    cases hl
    exact hp c (gap.blank c (by rw [hchars]; exact List.mem_cons_self))

theorem Gap.head_eq_false {p : Char → Bool} (hp : ∀ c, Text.isBlank c = true → p c = false)
    (d : Char) (hd : p d = false) (gap : Gap) (text : List Char) :
    ∀ c ∈ (gap.chars ++ d :: text).head?, p c = false := by
  intro c hc
  cases hchars : gap.chars with
  | nil =>
    rw [hchars] at hc
    cases hc
    exact hd
  | cons e es =>
    rw [hchars] at hc
    cases hc
    exact hp c (gap.blank c (by rw [hchars]; exact List.mem_cons_self))

theorem isWordOrDot_eq_false_of_isBlank {c : Char} (h : Text.isBlank c = true) :
    Text.isWordOrDot c = false := by
  have hdot : c ≠ '.' := by
    rintro rfl
    exact absurd h (by decide)
  rw [Text.isWordOrDot, Text.isWord_eq_false_of_isBlank h, Bool.false_or, beq_eq_false_iff_ne]
  exact hdot

theorem isModifierChar_eq_false_of_isBlank {c : Char} (h : Text.isBlank c = true) :
    isModifierChar c = false := by
  have hdash : c ≠ '-' := by
    rintro rfl
    exact absurd h (by decide)
  rw [isModifierChar, Text.isWord_eq_false_of_isBlank h, Bool.false_or, beq_eq_false_iff_ne]
  exact hdash

/-- A character of a word is not one that belongs to none. -/
theorem char_ne_of_isWord {c d : Char} (hc : Text.isWord c = true) (hd : Text.isWord d = false) :
    Lexeme.char c ≠ .char d := by
  intro heq
  rw [Lexeme.char.inj heq, hd] at hc
  exact Bool.false_ne_true hc

theorem QualifiedName.isWordOrDot (name : QualifiedName) :
    ∀ c ∈ name.chars, Text.isWordOrDot c = true := by
  have hword (i : Identifier) : ∀ c ∈ i.chars, Text.isWordOrDot c = true := fun c hc ↦ by
    rw [Text.isWordOrDot, i.word c hc, Bool.true_or]
  intro c hc
  rcases List.mem_append.1 hc with hc | hc
  · obtain ⟨q, _, hq⟩ := List.mem_flatMap.1 hc
    rcases List.mem_append.1 hq with hq | hq
    · exact hword q c hq
    · rw [List.mem_singleton.1 hq]
      rfl
  · exact hword name.last c hc

theorem Identifier.exists_cons (name : Identifier) :
    ∃ c rest, name.chars = c :: rest ∧ Text.isWord c = true := by
  cases h : name.chars with
  | nil => exact absurd h name.ne_nil
  | cons c rest => exact ⟨c, rest, rfl, name.word c (by rw [h]; exact List.mem_cons_self)⟩

theorem QualifiedName.exists_cons (name : QualifiedName) :
    ∃ c rest, name.chars = c :: rest ∧ Text.isWord c = true := by
  rw [QualifiedName.chars]
  cases name.qualifiers with
  | nil => exact name.last.exists_cons
  | cons q qs =>
    obtain ⟨c, rest, hq, hc⟩ := q.exists_cons
    exact ⟨c, _, by rw [List.flatMap_cons, hq]; rfl, hc⟩

theorem QualifiedName.chars_ne_nil (name : QualifiedName) : name.chars ≠ [] :=
  List.append_ne_nil_of_right_ne_nil _ name.last.ne_nil

theorem simpleName_chars (name : QualifiedName) : simpleName name.chars = name.last.text := by
  have hlast : ∀ c ∈ name.last.chars, (c != '.') = true := fun c hc ↦ by
    rw [bne_iff_ne]
    rintro rfl
    exact absurd (name.last.word '.' hc) (by decide)
  have hdot : ∀ c ∈ (name.qualifiers.flatMap fun q ↦ q.chars ++ ['.']).getLast?,
      (c != '.') = false := by
    intro c hc
    cases List.eq_nil_or_concat name.qualifiers with
    | inl hnil =>
      rw [hnil] at hc
      cases hc
    | inr hconcat =>
      obtain ⟨qs, q, hqs⟩ := hconcat
      rw [hqs, List.concat_eq_append, List.flatMap_append, List.flatMap_singleton,
        ← List.append_assoc, List.getLast?_concat] at hc
      cases hc
      rfl
  rw [simpleName, QualifiedName.chars, Text.splitTrailing_append_stop hdot hlast,
    Identifier.text]

/-! ## Annotations and modifiers -/

theorem peelHeader_blanks (gap : Gap) (rest : List Lexeme) :
    peelHeader (plain gap.chars ++ rest) = peelHeader rest := by
  have hblank := gap.isBlank
  generalize plain gap.chars = ls at hblank ⊢
  induction ls with
  | nil => rfl
  | cons l ls ih =>
    have hpeel : peel (l :: (ls ++ rest)) = .ignored (ls ++ rest) := by
      rw [peel, if_pos (hblank l List.mem_cons_self)]
    rw [List.cons_append, peelHeader_of_ignored hpeel]
    exact ih fun m hm ↦ hblank m (List.mem_cons_of_mem _ hm)

theorem peelHeader_of_begins {ls : List Lexeme} (h : Begins ls) : peelHeader ls = ([], ls) := by
  obtain ⟨hhead, hword⟩ := h
  apply peelHeader_of_declaration
  cases ls with
  | nil => rfl
  | cons l ls =>
    obtain ⟨hblank, hat⟩ := hhead l rfl
    have hcontains : ¬ modifiers.contains
        (String.ofList (flatten ((l :: ls).takeWhile (Lexeme.is isModifierChar)))) = true := by
      rw [List.contains_iff_mem]
      exact hword
    rw [peel, hblank, if_neg Bool.false_ne_true, if_neg hat, if_neg hcontains]

theorem modifiers_chars {word : String} (h : word ∈ modifiers) :
    (∀ c ∈ word.toList, isModifierChar c = true) ∧
      ∃ c ∈ word.toList.head?, Text.isWord c = true := by
  have hall : ∀ word ∈ modifiers, word.toList.all isModifierChar = true ∧
      word.toList.head?.any Text.isWord = true := by
    decide
  obtain ⟨hchars, hhead⟩ := hall word h
  exact ⟨List.all_eq_true.1 hchars, (Option.any_eq_true _ _).1 hhead⟩

theorem peelHeader_modifier {word : String} (hknown : word ∈ modifiers) {rest : List Lexeme}
    (hrest : ∀ l ∈ rest.head?, l.is isModifierChar = false) :
    peelHeader (plain word.toList ++ rest) = peelHeader rest := by
  obtain ⟨hchars, c, hhead, hc⟩ := modifiers_chars hknown
  have hword := is_of_mem_plain hchars
  have htake := Text.takeWhile_append_stop hword hrest
  have hdrop := Text.dropWhile_append_stop hword hrest
  obtain ⟨cs, hcs⟩ := List.head?_eq_some_iff.1 hhead
  have hcons : plain word.toList ++ rest = .char c :: (plain cs ++ rest) := by
    rw [hcs]
    rfl
  rw [hcons] at htake hdrop ⊢
  apply peelHeader_of_ignored
  have hcontains : modifiers.contains (String.ofList (flatten
      ((Lexeme.char c :: (plain cs ++ rest)).takeWhile (Lexeme.is isModifierChar)))) = true := by
    rw [htake, flatten_plain, String.ofList_toList, List.contains_iff_mem]
    exact hknown
  have hblank : ¬ (Lexeme.char c).isBlank = true := by
    rw [Lexeme.isBlank, Lexeme.is, Text.isBlank_eq_false_of_isWord hc]
    exact Bool.false_ne_true
  have hat : Lexeme.char c ≠ .char '@' := char_ne_of_isWord hc (by decide)
  rw [peel, if_neg hblank, if_neg hat, if_pos hcontains, hdrop]

/-- The arguments of an annotation do not run into its name. -/
theorem AnnotationForm.head_argumentLexemes (a : AnnotationForm) {x : Gap × Enclosed}
    (h : a.arguments = some x) (rest : List Lexeme) :
    ∀ l ∈ (a.argumentLexemes ++ rest).head?, l.is Text.isWordOrDot = false := by
  rw [AnnotationForm.argumentLexemes, h, Option.elim_some, List.append_assoc]
  apply x.1.is_head_eq_false fun _ ↦ isWordOrDot_eq_false_of_isBlank
  intro _ l hl
  cases hl
  decide

/-- What stands after the name of an annotation is not taken for a part of the name. -/
theorem peelHeader_annotation (a : AnnotationForm) {rest : List Lexeme}
    (hname : ∀ l ∈ (a.argumentLexemes ++ rest).head?, l.is Text.isWordOrDot = false)
    (harguments : a.arguments = none → (rest.dropWhile Lexeme.isBlank).head? ≠ some (.char '(')) :
    peelHeader (a.lexemes ++ rest) = (a.use :: (peelHeader rest).1, (peelHeader rest).2) := by
  apply peelHeader_of_annotated
  obtain ⟨c, cs, hc, hword⟩ := a.name.exists_cons
  have hstart : ∀ l ∈ (plain a.name.chars ++ (a.argumentLexemes ++ rest)).head?,
      l.isBlank = false := by
    intro l hl
    rw [hc] at hl
    cases hl
    exact Text.isBlank_eq_false_of_isWord hword
  have hblanks := Text.dropWhile_append_stop a.gap.isBlank hstart
  have htake := Text.takeWhile_append_stop (is_of_mem_plain a.name.isWordOrDot) hname
  have hdrop := Text.dropWhile_append_stop (is_of_mem_plain a.name.isWordOrDot) hname
  have hempty : ¬ (a.name.chars.isEmpty = true ∨ a.name.chars = "interface".toList) := by
    rw [List.isEmpty_iff]
    exact not_or.2 ⟨a.name.chars_ne_nil, a.ne_interface⟩
  have hsimple := simpleName_chars a.name
  rw [AnnotationForm.lexemes, List.cons_append, peel, if_neg (by decide), if_pos rfl, peelAnnotated]
  simp only [List.append_assoc, hblanks, htake, hdrop, flatten_plain, hempty, if_false, hsimple]
  rw [AnnotationForm.use]
  cases harg : a.arguments with
  | none =>
    have hnil : a.argumentLexemes = [] := by rw [AnnotationForm.argumentLexemes, harg]; rfl
    have hhead := harguments harg
    rw [hnil, List.nil_append]
    split
    · rename_i inner hopen
      rw [hopen] at hhead
      exact absurd rfl hhead
    · rfl
  | some x =>
    obtain ⟨gap, e⟩ := x
    have hcons : a.argumentLexemes ++ rest =
        plain gap.chars ++ .char '(' :: (e.lexemes ++ .char ')' :: rest) := by
      rw [AnnotationForm.argumentLexemes, harg]
      simp
    have hparen : ∀ l ∈ (Lexeme.char '(' :: (e.lexemes ++ .char ')' :: rest)).head?,
        l.isBlank = false := by
      intro l hl
      cases hl
      rfl
    rw [hcons, Text.dropWhile_append_stop gap.isBlank hparen]
    simp only [closing_of_closed e.parens]
    rfl

theorem startsDeclaration_append {xs ys : List Lexeme} (h : StartsDeclaration xs) (hne : xs ≠ [])
    (hys : ∀ l ∈ ys.head?, l.is isModifierChar = false) : StartsDeclaration (xs ++ ys) := by
  obtain ⟨⟨hhead, hword⟩, hparen⟩ := h
  have hstop : ys.takeWhile (Lexeme.is isModifierChar) = [] :=
    Text.takeWhile_append_stop (fun _ hl ↦ absurd hl List.not_mem_nil) hys
  have htake : (xs ++ ys).takeWhile (Lexeme.is isModifierChar) =
      xs.takeWhile (Lexeme.is isModifierChar) := by
    rw [List.takeWhile_append, hstop, List.append_nil]
    split
    · rename_i hlength
      exact ((List.takeWhile_prefix _).eq_of_length hlength).symm
    · rfl
  rw [StartsDeclaration, Begins, htake, List.head?_append_of_ne_nil _ hne]
  exact ⟨⟨hhead, hword⟩, hparen⟩

theorem startsDeclaration_plain {word : List Char}
    (hword : ∀ c ∈ word, Text.isWord c = true) (hmodifier : String.ofList word ∉ modifiers) :
    StartsDeclaration (plain word) := by
  have hchars : ∀ c ∈ word, isModifierChar c = true := fun c hc ↦ by
    rw [isModifierChar, hword c hc, Bool.true_or]
  have htake : (plain word).takeWhile (Lexeme.is isModifierChar) = plain word :=
    List.takeWhile_eq_self_iff.2 (is_of_mem_plain hchars)
  have hhead : ∀ l ∈ (plain word).head?, ∃ c, l = .char c ∧ Text.isWord c = true := by
    intro l hl
    obtain ⟨c, hc, rfl⟩ := List.mem_map.1 (List.mem_of_mem_head? hl)
    exact ⟨c, rfl, hword c hc⟩
  refine ⟨⟨?_, ?_⟩, ?_⟩
  · intro l hl
    obtain ⟨c, rfl, hc⟩ := hhead l hl
    exact ⟨Text.isBlank_eq_false_of_isWord hc, char_ne_of_isWord hc (by decide)⟩
  · rw [htake, flatten_plain]
    exact hmodifier
  · intro hparen
    obtain ⟨c, heq, hc⟩ := hhead _ hparen
    exact char_ne_of_isWord hc (by decide) heq.symm

/-- The first word of a declaration ends at a gap, or else at what follows it. -/
theorem startsDeclaration_gap {word : List Char} (h : StartsDeclaration (plain word))
    (hne : word ≠ []) (gap : Gap) {rest : List Lexeme}
    (hrest : gap.chars = [] → ∀ l ∈ rest.head?, l.is isModifierChar = false) :
    StartsDeclaration (plain word ++ (plain gap.chars ++ rest)) := by
  apply startsDeclaration_append h (plain_ne_nil hne)
  exact gap.is_head_eq_false (fun _ ↦ isModifierChar_eq_false_of_isBlank) hrest

/-- A parenthesis belongs to no modifier. -/
theorem startsDeclaration_parenthesis {word : List Char} (h : StartsDeclaration (plain word))
    (hne : word ≠ []) (gap : Gap) (rest : List Lexeme) :
    StartsDeclaration (plain word ++ (plain gap.chars ++ .char '(' :: rest)) := by
  apply startsDeclaration_gap h hne gap
  intro _ l hl
  cases hl
  decide

section Front

variable {items : List Item} {declaration : List Lexeme}

theorem head_items (hstarts : StartsDeclaration declaration) :
    ∀ l ∈ (items.flatMap Item.lexemes ++ declaration).head?, l.isBlank = false ∧ l ≠ .char '(' := by
  cases items with
  | nil =>
    intro l hl
    refine ⟨(hstarts.1.1 l hl).1, ?_⟩
    rintro rfl
    exact hstarts.2 hl
  | cons item items =>
    intro l hl
    cases item with
    | annotated a gap =>
      cases hl
      exact ⟨rfl, by decide⟩
    | modifier word known gap =>
      obtain ⟨-, c, hhead, hc⟩ := modifiers_chars known
      obtain ⟨cs, hcs⟩ := List.head?_eq_some_iff.1 hhead
      rw [List.flatMap_cons, Item.lexemes, hcs] at hl
      cases hl
      exact ⟨Text.isBlank_eq_false_of_isWord hc, char_ne_of_isWord hc (by decide)⟩

/-- A word that is kept apart from what follows ends where it is written to end. -/
theorem head_after_word {item : Item} {p : Char → Bool} (hapart : Item.Apart (item :: items))
    (hword : item.endsInWord = true) (hblank : ∀ c, Text.isBlank c = true → p c = false)
    (hat : p '@' = false) :
    ∀ l ∈ (plain item.gap.chars ++ (items.flatMap Item.lexemes ++ declaration)).head?,
      l.is p = false := by
  apply item.gap.is_head_eq_false hblank
  intro hgap l hl
  obtain ⟨next, hnext, hannotation⟩ := hapart.1 hword hgap
  obtain ⟨others, rfl⟩ := List.head?_eq_some_iff.1 hnext
  cases next with
  | annotated a gap =>
    cases hl
    exact hat
  | modifier word known gap => cases hannotation

theorem peelHeader_items (hapart : Item.Apart items) (hstarts : StartsDeclaration declaration) :
    peelHeader (items.flatMap Item.lexemes ++ declaration) =
      (items.filterMap Item.use?, declaration) := by
  induction items with
  | nil => exact peelHeader_of_begins hstarts.1
  | cons item items ih =>
    have hnext := ih hapart.2
    cases item with
    | annotated a gap =>
      have hend : ∀ l ∈ (a.argumentLexemes ++ (plain gap.chars ++ (items.flatMap Item.lexemes ++
          declaration))).head?, l.is Text.isWordOrDot = false := by
        cases harg : a.arguments with
        | none =>
          have hword : (Item.annotated a gap).endsInWord = true := by
            rw [Item.endsInWord, harg]
            rfl
          rw [AnnotationForm.argumentLexemes, harg]
          exact head_after_word hapart hword (fun _ ↦ isWordOrDot_eq_false_of_isBlank) (by decide)
        | some x => exact a.head_argumentLexemes harg _
      have hparen : a.arguments = none → ((plain gap.chars ++ (items.flatMap Item.lexemes ++
          declaration)).dropWhile Lexeme.isBlank).head? ≠ some (.char '(') := by
        intro _ hopen
        have hhead := @head_items items declaration hstarts
        rw [Text.dropWhile_append_stop gap.isBlank fun l hl ↦ (hhead l hl).1] at hopen
        exact (hhead _ hopen).2 rfl
      rw [List.flatMap_cons, Item.lexemes, List.append_assoc, List.append_assoc,
        peelHeader_annotation a hend hparen, peelHeader_blanks, hnext]
      rfl
    | modifier word known gap =>
      have hend : ∀ l ∈ (plain gap.chars ++ (items.flatMap Item.lexemes ++ declaration)).head?,
          l.is isModifierChar = false :=
        head_after_word hapart rfl (fun _ ↦ isModifierChar_eq_false_of_isBlank) (by decide)
      rw [List.flatMap_cons, Item.lexemes, List.append_assoc, List.append_assoc,
        peelHeader_modifier known hend, peelHeader_blanks, hnext]
      rfl

end Front

theorem peelHeader_front (front : Front) {declaration : List Lexeme}
    (hstarts : StartsDeclaration declaration) :
    peelHeader (front.lexemes ++ declaration) = (front.annotations, declaration) := by
  rw [Front.lexemes, List.append_assoc, peelHeader_blanks, peelHeader_items front.apart hstarts,
    Front.annotations]

end Written

end EndpointStubs.Java
