import EndpointStubs.Proofs.ArgumentReading
import EndpointStubs.Proofs.SourceReading

/-!
# Written attributes

The arguments of an annotation as they are written: each is an array of
expressions, an expression or a constant, with or without a name, and an
expression is one string literal or several with plus signs between them. An
argument is read with the contents of its literals, one by one in an array and
joined outside of arrays. So arrays of literals are read as they are meant,
whatever characters the literals hold, and in an array an expression of several
literals is read as several elements. Contents are as written: their escapes are
not resolved here. Constants are made of words and dots; other expressions
without literals, and arrays with a comma behind the last element, are left out.
-/

namespace EndpointStubs.Java

/-- Inside of brackets no comma separates pieces. -/
theorem noSplit_of_level_eq_zero {depth : Int} (hdepth : depth ≠ 0) {xs : List Lexeme}
    (h : ∀ l ∈ xs, level l = 0) : NoSplit depth xs := by
  induction xs with
  | nil => trivial
  | cons l xs ih =>
    rw [List.forall_mem_cons] at h
    refine ⟨fun hsplit ↦ hdepth hsplit.2, ?_⟩
    rw [h.1, Int.add_zero]
    exact ih h.2

theorem isBlank_eq_false_of_isWordOrDot {c : Char} (h : Text.isWordOrDot c = true) :
    Text.isBlank c = false := by
  rw [Bool.eq_false_iff]
  intro hblank
  rw [Written.isWordOrDot_eq_false_of_isBlank hblank] at h
  cases h

namespace Written

theorem namedArgument_of_not_mem {argument : List Char} (h : '=' ∉ argument) :
    namedArgument argument = ("value", Text.trim argument) := by
  rw [namedArgument]
  split
  · rename_i expression heq
    have hmem : '=' ∈ ((Text.trimStart argument).dropWhile Text.isWord).dropWhile Text.isBlank := by
      rw [heq]
      exact List.mem_cons_self
    have hstart := (List.dropWhile_sublist _).subset ((List.dropWhile_sublist _).subset hmem)
    exact absurd ((List.dropWhile_sublist _).subset hstart) h
  · rfl

/-- A string literal, by the characters between its quotes. -/
structure StringForm where
  content : List Char
  closes : Closes '"' (content ++ ['"'])
  oneLine : '\n' ∉ content

def StringForm.lexeme (s : StringForm) : Lexeme :=
  .literal ('"' :: (s.content ++ ['"']))

/-- The string literals of a text without other quotes, in their order. -/
inductive HasStrings : List Lexeme → List StringForm → Prop
  | nil : HasStrings [] []
  | char {c : Char} {ls : List Lexeme} {strings : List StringForm} (hc : isQuote c = false)
      (h : HasStrings ls strings) : HasStrings (.char c :: ls) strings
  | string {ls : List Lexeme} {strings : List StringForm} (s : StringForm)
      (h : HasStrings ls strings) : HasStrings (s.lexeme :: ls) (s :: strings)

namespace HasStrings

variable {ls more : List Lexeme} {strings others : List StringForm}

theorem append (h : HasStrings ls strings) (hmore : HasStrings more others) :
    HasStrings (ls ++ more) (strings ++ others) := by
  induction h with
  | nil => exact hmore
  | char hc _ ih => exact .char hc ih
  | string s _ ih => exact .string s ih

theorem ofChars {chars : List Char} (h : ∀ c ∈ chars, isQuote c = false) :
    HasStrings (plain chars) [] := by
  induction chars with
  | nil => exact .nil
  | cons c chars ih =>
    rw [List.forall_mem_cons] at h
    exact .char h.1 (ih h.2)

theorem ofGap (gap : Gap) : HasStrings (plain gap.chars) [] :=
  ofChars fun c hc ↦ (gap.neutral (.char c) (List.mem_map_of_mem hc)).2.2

theorem isWhole (h : HasStrings ls strings) : ∀ l ∈ ls, l.IsWhole := by
  induction h with
  | nil => exact fun l hl ↦ absurd hl List.not_mem_nil
  | char hc _ ih => exact List.forall_mem_cons.2 ⟨hc, ih⟩
  | string s _ ih => exact List.forall_mem_cons.2 ⟨⟨rfl, s.closes⟩, ih⟩

/-- All literals are found, with their contents as written. -/
theorem stringContents_flatten (h : HasStrings ls strings) :
    stringContents (flatten ls) = strings.map StringForm.content := by
  induction h with
  | nil => rw [flatten_nil, stringContents, List.map_nil]
  | @char c ls strings hc _ ih =>
    have hquote : '"' ∉ [c] := by
      rw [List.mem_singleton]
      rintro rfl
      cases hc
    rw [flatten_cons, Lexeme.chars, stringContents_append_of_not_mem hquote, ih]
  | @string ls strings s _ ih =>
    have hchars : flatten (s.lexeme :: ls) = '"' :: (s.content ++ '"' :: flatten ls) := by
      simp [StringForm.lexeme, Lexeme.chars]
    rw [hchars, stringContents_literal (closeString_of_closes s.closes s.oneLine _), ih,
      List.map_cons]

end HasStrings

/-- One string literal, or several with plus signs between them. -/
structure SumForm where
  first : StringForm
  /-- The blanks before and after each plus sign, and the literal behind it. -/
  others : List (Gap × Gap × StringForm)

namespace SumForm

def literals (sum : SumForm) : List StringForm :=
  sum.first :: sum.others.map (·.2.2)

/-- A plus sign and the literal behind it. -/
def summand : Gap × Gap × StringForm → List Lexeme
  | (before, after, s) => plain before.chars ++ (.char '+' :: (plain after.chars ++ [s.lexeme]))

def lexemes (sum : SumForm) : List Lexeme :=
  sum.first.lexeme :: sum.others.flatMap summand

/-- What the expression stands for, with the escapes of its literals. -/
def content (sum : SumForm) : List Char :=
  (sum.literals.map StringForm.content).flatten

theorem length_literals (sum : SumForm) : sum.literals.length = sum.others.length + 1 := by
  rw [literals, List.length_cons, List.length_map]

theorem hasStrings (sum : SumForm) : HasStrings sum.lexemes sum.literals := by
  obtain ⟨first, others⟩ := sum
  refine .string first ?_
  dsimp only
  induction others with
  | nil => exact .nil
  | cons other others ih =>
    rw [List.flatMap_cons, List.map_cons]
    have hother := (HasStrings.ofGap other.1).append
      (.char (c := '+') rfl ((HasStrings.ofGap other.2.1).append (.string other.2.2 .nil)))
    exact hother.append ih

theorem neutral_lexeme (s : StringForm) : Neutral [s.lexeme] := fun l hl ↦ by
  rw [List.mem_singleton.1 hl]
  exact ⟨nofun, rfl, rfl, s.closes⟩

theorem neutral (sum : SumForm) : Neutral sum.lexemes := by
  refine (neutral_lexeme sum.first).append fun l hl ↦ ?_
  obtain ⟨⟨before, after, s⟩, -, hmem⟩ := List.mem_flatMap.1 hl
  have hplus : Neutral [.char '+'] := fun l hl ↦ by
    rw [List.mem_singleton.1 hl]
    decide
  exact (before.neutral.append (hplus.append (after.neutral.append (neutral_lexeme s)))) l hmem

theorem exists_flatten_cons (sum : SumForm) : ∃ rest, flatten sum.lexemes = '"' :: rest :=
  ⟨_, by rw [lexemes, flatten_cons, StringForm.lexeme, Lexeme.chars, List.cons_append]⟩

/-- An expression ends with a literal. -/
theorem exists_lexemes_concat (sum : SumForm) : ∃ before, ∃ s : StringForm,
    sum.lexemes = before ++ [s.lexeme] := by
  rw [lexemes]
  rcases List.eq_nil_or_concat sum.others with hnil | ⟨others, ⟨before, after, s⟩, hconcat⟩
  · exact ⟨[], sum.first, by rw [hnil, List.flatMap_nil, List.nil_append]⟩
  · rw [hconcat, List.concat_eq_append, List.flatMap_append, List.flatMap_singleton]
    refine ⟨sum.first.lexeme :: (others.flatMap summand ++ (plain before.chars ++
      (.char '+' :: plain after.chars))), s, ?_⟩
    simp only [summand, List.cons_append, List.append_assoc]

theorem exists_flatten_concat (sum : SumForm) :
    ∃ before, flatten sum.lexemes = before ++ ['"'] := by
  obtain ⟨before, s, h⟩ := sum.exists_lexemes_concat
  refine ⟨flatten before ++ '"' :: s.content, ?_⟩
  rw [h, flatten_append, flatten_cons, flatten_nil]
  simp [StringForm.lexeme, Lexeme.chars]

theorem content_of_others_eq_nil {sum : SumForm} (h : sum.others = []) :
    sum.content = sum.first.content := by
  rw [content, literals, h, List.map_nil, List.map_singleton, List.flatten_singleton]

theorem first_content_eq_iff (sum : SumForm) :
    sum.first.content = sum.content ↔ ∀ other ∈ sum.others, other.2.2.content = [] := by
  rw [content, literals, List.map_cons, List.flatten_cons, List.self_eq_append_right,
    List.flatten_eq_nil_iff]
  simp only [List.map_map, List.mem_map, forall_exists_index, and_imp,
    forall_apply_eq_imp_iff₂, Function.comp_apply]

end SumForm

/-- An expression in an array, with the blanks around it. -/
structure ElementForm where
  lead : Gap
  sum : SumForm
  trail : Gap

namespace ElementForm

def lexemes (element : ElementForm) : List Lexeme :=
  plain element.lead.chars ++ (element.sum.lexemes ++ plain element.trail.chars)

/-- The elements with commas between them; blanks, if there are none. -/
def listLexemes (blanks : Gap) : List ElementForm → List Lexeme
  | [] => plain blanks.chars
  | element :: elements => [.char ','].intercalate ((element :: elements).map lexemes)

theorem neutral (element : ElementForm) : Neutral element.lexemes :=
  element.lead.neutral.append (element.sum.neutral.append element.trail.neutral)

theorem hasStrings (element : ElementForm) :
    HasStrings element.lexemes element.sum.literals := by
  have h := (HasStrings.ofGap element.lead).append
    (element.sum.hasStrings.append (.ofGap element.trail))
  rwa [List.append_nil, List.nil_append] at h

theorem hasStrings_listLexemes (blanks : Gap) (elements : List ElementForm) :
    HasStrings (listLexemes blanks elements) (elements.flatMap (·.sum.literals)) := by
  cases elements with
  | nil => exact .ofGap blanks
  | cons element elements =>
    rw [listLexemes]
    induction elements generalizing element with
    | nil =>
      rw [List.map_singleton, List.intercalate_singleton, List.flatMap_singleton]
      exact element.hasStrings
    | cons next elements ih =>
      rw [List.map_cons, List.map_cons, List.intercalate_cons_cons, ← List.map_cons,
        List.append_assoc, List.flatMap_cons]
      exact element.hasStrings.append (.char (by decide) (ih next))

theorem level_listLexemes (blanks : Gap) (elements : List ElementForm) :
    ∀ l ∈ listLexemes blanks elements, level l = 0 := by
  cases elements with
  | nil => exact fun l hl ↦ (blanks.neutral l hl).2.1
  | cons element elements =>
    refine forall_mem_intercalate (List.forall_mem_singleton.2 (by decide)) fun piece hpiece ↦ ?_
    obtain ⟨other, -, rfl⟩ := List.mem_map.1 hpiece
    exact fun l hl ↦ (other.neutral l hl).2.1

theorem length_le_literals (elements : List ElementForm) :
    elements.length ≤ (elements.flatMap (·.sum.literals)).length := by
  induction elements with
  | nil => exact Nat.le_refl 0
  | cons element elements ih =>
    rw [List.flatMap_cons, List.length_append, List.length_cons, SumForm.length_literals]
    omega

/-- The literals are the elements exactly if no element has more than one of them. -/
theorem strings_eq_iff {elements : List ElementForm} :
    ((elements.flatMap (·.sum.literals)).map fun s ↦ String.ofList s.content) =
        elements.map (fun element ↦ .ofList element.sum.content) ↔
      ∀ element ∈ elements, element.sum.others = [] := by
  induction elements with
  | nil => exact iff_of_true rfl fun element hmem ↦ absurd hmem List.not_mem_nil
  | cons element elements ih =>
    rw [List.flatMap_cons, List.map_append, List.map_cons, List.forall_mem_cons]
    by_cases hothers : element.sum.others = []
    · have hliterals : element.sum.literals = [element.sum.first] := by
        rw [SumForm.literals, hothers, List.map_nil]
      rw [hliterals, List.map_singleton, List.singleton_append, List.cons.injEq,
        SumForm.content_of_others_eq_nil hothers, ih]
      exact and_congr_left' (iff_of_true rfl hothers)
    · refine iff_of_false (fun heq ↦ ?_) fun h ↦ hothers h.1
      have hlength := congrArg List.length heq
      have hmore := List.length_pos_iff.2 hothers
      have hle := length_le_literals elements
      simp only [List.length_append, List.length_map, List.length_cons, SumForm.length_literals]
        at hlength
      omega

end ElementForm

/-! ## Values -/

inductive ValueForm
  /-- Expressions in braces, or the blanks between the braces if there are none. -/
  | array (blanks : Gap) (elements : List ElementForm)
  | single (sum : SumForm)
  /-- The name of a constant, a number or a truth value. -/
  | constant (chars : List Char) (ne_nil : chars ≠ [])
    (word : ∀ c ∈ chars, Text.isWordOrDot c = true)

namespace ValueForm

def lexemes : ValueForm → List Lexeme
  | array blanks elements => .char '{' :: (ElementForm.listLexemes blanks elements ++ [.char '}'])
  | single sum => sum.lexemes
  | constant chars _ _ => plain chars

/-- The expressions between the braces. -/
def elements : ValueForm → List ElementForm
  | array _ elements => elements
  | _ => []

def literals : ValueForm → List StringForm
  | array _ elements => elements.flatMap (·.sum.literals)
  | single sum => sum.literals
  | constant _ _ _ => []

/-- The strings that the value stands for: one for each element of an array. -/
def denoted : ValueForm → List String
  | array _ elements => elements.map fun element ↦ .ofList element.sum.content
  | single sum => [.ofList sum.content]
  | constant _ _ _ => []

/-- The strings that the value is read as: one for each literal of an array. -/
def strings : ValueForm → List String
  | array _ elements => (elements.flatMap (·.sum.literals)).map fun s ↦ .ofList s.content
  | single sum => [.ofList sum.content]
  | constant _ _ _ => []

/-- A constant holds neither quotes nor commas nor brackets. -/
theorem neutral_constant {chars : List Char} (h : ∀ c ∈ chars, Text.isWordOrDot c = true) :
    Neutral (plain chars) := by
  intro l hl
  obtain ⟨c, hc, rfl⟩ := List.mem_map.1 hl
  have hwordOrDot := h c hc
  rw [Text.isWordOrDot, Bool.or_eq_true, beq_iff_eq] at hwordOrDot
  rcases hwordOrDot with hword | rfl
  · have hneutral : Neutral (plain [c]) :=
      neutral_plain fun d hd ↦ .inr (List.mem_singleton.1 hd ▸ hword)
    exact hneutral _ List.mem_cons_self
  · decide

theorem hasStrings (value : ValueForm) : HasStrings value.lexemes value.literals := by
  cases value with
  | array blanks elements =>
    have helements := ElementForm.hasStrings_listLexemes blanks elements
    have hclosing : HasStrings [.char '}'] [] := .char (by decide) .nil
    have h := HasStrings.char (c := '{') (by decide) (helements.append hclosing)
    rwa [List.append_nil] at h
  | single sum => exact sum.hasStrings
  | constant chars _ word =>
    exact .ofChars fun c hc ↦ (neutral_constant word (.char c) (List.mem_map_of_mem hc)).2.2

theorem levels_lexemes (value : ValueForm) : levels value.lexemes = 0 := by
  cases value with
  | array blanks elements =>
    have helements := levels_eq_zero (ElementForm.level_listLexemes blanks elements)
    rw [lexemes, levels, levels_append, helements]
    rfl
  | single sum => exact sum.neutral.levels_eq_zero
  | constant chars _ word => exact (neutral_constant word).levels_eq_zero

theorem noSplit_lexemes (value : ValueForm) : NoSplit 0 value.lexemes := by
  cases value with
  | array blanks elements =>
    have helements := ElementForm.level_listLexemes blanks elements
    have hdepth : (0 : Int) + level (.char '{') = 1 := rfl
    rw [lexemes, NoSplit, hdepth, noSplit_append, levels_eq_zero helements]
    exact ⟨by decide, noSplit_of_level_eq_zero (by decide) helements, by decide, trivial⟩
  | single sum => exact sum.neutral.noSplit 0
  | constant chars _ word => exact (neutral_constant word).noSplit 0

theorem exists_not_blank (value : ValueForm) : ∃ l ∈ value.lexemes, l.isBlank = false := by
  cases value with
  | array blanks elements => exact ⟨.char '{', List.mem_cons_self, rfl⟩
  | single sum => exact ⟨sum.first.lexeme, List.mem_cons_self, rfl⟩
  | constant chars ne_nil word =>
    obtain ⟨c, hc⟩ := List.exists_mem_of_ne_nil chars ne_nil
    exact ⟨.char c, List.mem_map_of_mem hc, isBlank_eq_false_of_isWordOrDot (word c hc)⟩

theorem flatten_array (blanks : Gap) (elements : List ElementForm) :
    flatten (array blanks elements).lexemes =
      '{' :: (flatten (ElementForm.listLexemes blanks elements) ++ ['}']) := by
  simp [lexemes, Lexeme.chars]

theorem flatten_ne_nil (value : ValueForm) : flatten value.lexemes ≠ [] := by
  cases value with
  | array blanks elements =>
    rw [flatten_array]
    exact List.cons_ne_nil _ _
  | single sum =>
    obtain ⟨rest, h⟩ := sum.exists_flatten_cons
    rw [lexemes, h]
    exact List.cons_ne_nil _ _
  | constant chars ne_nil _ =>
    rw [lexemes, flatten_plain]
    exact ne_nil

theorem isBlank_head (value : ValueForm) :
    ∀ c ∈ (flatten value.lexemes).head?, Text.isBlank c = false := by
  cases value with
  | array blanks elements =>
    rw [flatten_array]
    rintro c ⟨⟩
    decide
  | single sum =>
    obtain ⟨rest, h⟩ := sum.exists_flatten_cons
    rw [lexemes, h]
    rintro c ⟨⟩
    decide
  | constant chars _ word =>
    rw [lexemes, flatten_plain]
    exact fun c hc ↦ isBlank_eq_false_of_isWordOrDot (word c (List.mem_of_mem_head? hc))

theorem isBlank_getLast (value : ValueForm) :
    ∀ c ∈ (flatten value.lexemes).getLast?, Text.isBlank c = false := by
  cases value with
  | array blanks elements =>
    rw [flatten_array, ← List.cons_append, List.getLast?_concat]
    rintro c ⟨⟩
    decide
  | single sum =>
    obtain ⟨before, h⟩ := sum.exists_flatten_concat
    rw [lexemes, h, List.getLast?_concat]
    rintro c ⟨⟩
    decide
  | constant chars _ word =>
    rw [lexemes, flatten_plain]
    exact fun c hc ↦ isBlank_eq_false_of_isWordOrDot (word c (List.mem_of_getLast? hc))

/-- The blanks around a value are dropped. -/
theorem trim_flatten (lead : Gap) (value : ValueForm) (trail : Gap) :
    Text.trim (lead.chars ++ (flatten value.lexemes ++ trail.chars)) = flatten value.lexemes :=
  trim_between lead.blank value.isBlank_head value.isBlank_getLast value.flatten_ne_nil trail.blank

/-- A value that stands alone is no name with something assigned to it. -/
theorem namedArgument_flatten (lead : Gap) (value : ValueForm) (trail : Gap) :
    namedArgument (lead.chars ++ (flatten value.lexemes ++ trail.chars)) =
      ("value", flatten value.lexemes) := by
  have htrim := trim_flatten lead value trail
  cases value with
  | array blanks elements =>
    rw [flatten_array, List.cons_append] at htrim ⊢
    rw [namedArgument_unnamed lead _ (by decide) (by decide) (by decide), htrim]
  | single sum =>
    obtain ⟨rest, h⟩ := sum.exists_flatten_cons
    rw [lexemes, h, List.cons_append] at htrim ⊢
    rw [namedArgument_unnamed lead _ (by decide) (by decide) (by decide), htrim]
  | constant chars _ word =>
    have hgap (gap : Gap) : '=' ∉ gap.chars := fun hmem ↦ absurd (gap.blank _ hmem) (by decide)
    have hchars : '=' ∉ chars := fun hmem ↦ absurd (word _ hmem) (by decide)
    have hequals : '=' ∉ lead.chars ++ (flatten (plain chars) ++ trail.chars) := by
      simp only [flatten_plain, List.mem_append, hgap, hchars, or_self, not_false_eq_true]
    rw [lexemes, namedArgument_of_not_mem hequals, ← lexemes, htrim]

theorem attributeValues_flatten (value : ValueForm) :
    attributeValues (flatten value.lexemes) = value.strings := by
  rw [attributeValues, value.hasStrings.stringContents_flatten]
  cases value with
  | array blanks elements =>
    rw [flatten_array, List.head?_cons, if_pos rfl, literals, strings, List.map_map]
    rfl
  | single sum =>
    obtain ⟨rest, h⟩ := sum.exists_flatten_cons
    rw [lexemes, h, List.head?_cons, if_neg (by decide), literals, strings, SumForm.content]
    rfl
  | constant chars _ word =>
    rw [literals, List.map_nil, List.map_nil, strings]
    exact ite_self _

/-- An array means what it is read as if each of its expressions is one literal. -/
theorem strings_eq_denoted_iff (value : ValueForm) :
    value.strings = value.denoted ↔ ∀ element ∈ value.elements, element.sum.others = [] := by
  cases value with
  | array blanks elements => exact ElementForm.strings_eq_iff
  | single sum => exact iff_of_true rfl fun element hmem ↦ absurd hmem List.not_mem_nil
  | constant chars _ _ => exact iff_of_true rfl fun element hmem ↦ absurd hmem List.not_mem_nil

end ValueForm

structure ArgumentForm where
  lead : Gap
  /-- The name with the blanks before and after the sign that follows it. -/
  name : Option (Identifier × Gap × Gap)
  value : ValueForm
  trail : Gap

namespace ArgumentForm

/-- The attribute that the argument is a value of. -/
def key (argument : ArgumentForm) : String :=
  argument.name.elim "value" (·.1.text)

/-- The name and the sign after it, if there is a name. -/
def assignment (argument : ArgumentForm) : List Lexeme :=
  argument.name.elim [] fun (name, before, after) ↦
    plain (name.chars ++ (before.chars ++ ['='])) ++ plain after.chars

def lexemes (argument : ArgumentForm) : List Lexeme :=
  plain argument.lead.chars ++ (argument.assignment ++
    (argument.value.lexemes ++ plain argument.trail.chars))

/-- The arguments with commas between them; blanks, if there are none. -/
def listText (blanks : Gap) : List ArgumentForm → List Char
  | [] => blanks.chars
  | argument :: arguments =>
    flatten ([.char ','].intercalate ((argument :: arguments).map lexemes))

theorem neutral_assignment (argument : ArgumentForm) : Neutral argument.assignment := by
  rw [assignment]
  cases argument.name with
  | none => exact fun l hl ↦ absurd hl List.not_mem_nil
  | some x => exact (Written.neutral_assignment _ _).append x.2.2.neutral

theorem noSplit_lexemes (argument : ArgumentForm) : NoSplit 0 argument.lexemes := by
  rw [lexemes, noSplit_append, noSplit_append, noSplit_append,
    argument.lead.neutral.levels_eq_zero, argument.neutral_assignment.levels_eq_zero]
  exact ⟨argument.lead.neutral.noSplit _, argument.neutral_assignment.noSplit _,
    argument.value.noSplit_lexemes, argument.trail.neutral.noSplit _⟩

theorem levels_lexemes (argument : ArgumentForm) : levels argument.lexemes = 0 := by
  rw [lexemes, levels_append, levels_append, levels_append, argument.lead.neutral.levels_eq_zero,
    argument.neutral_assignment.levels_eq_zero, argument.value.levels_lexemes,
    argument.trail.neutral.levels_eq_zero]
  rfl

theorem isWhole (argument : ArgumentForm) : ∀ l ∈ argument.lexemes, l.IsWhole := by
  simp only [lexemes, List.forall_mem_append]
  exact ⟨fun l hl ↦ (argument.lead.neutral l hl).2.2,
    fun l hl ↦ (argument.neutral_assignment l hl).2.2, argument.value.hasStrings.isWhole,
    fun l hl ↦ (argument.trail.neutral l hl).2.2⟩

theorem exists_not_blank (argument : ArgumentForm) :
    ∃ l ∈ argument.lexemes, l.isBlank = false := by
  obtain ⟨l, hl, hblank⟩ := argument.value.exists_not_blank
  refine ⟨l, ?_, hblank⟩
  rw [lexemes]
  exact List.mem_append_right _ (List.mem_append_right _ (List.mem_append_left _ hl))

/-- An argument is read under its name with the literals of its value. -/
theorem readArgument_lexemes (argument : ArgumentForm) :
    PathArguments.readArgument argument.lexemes = (argument.key, argument.value.strings) := by
  rw [PathArguments.readArgument, lexemes, assignment, key]
  cases argument.name with
  | none =>
    have hflatten : flatten (plain argument.lead.chars ++ ([] ++ (argument.value.lexemes ++
        plain argument.trail.chars))) = argument.lead.chars ++
          (flatten argument.value.lexemes ++ argument.trail.chars) := by
      simp
    rw [Option.elim_none, hflatten, argument.value.namedArgument_flatten]
    dsimp only
    rw [argument.value.attributeValues_flatten, Option.elim_none]
  | some x =>
    obtain ⟨name, before, after⟩ := x
    have hflatten : flatten (plain argument.lead.chars ++ (plain (name.chars ++ (before.chars ++
        ['='])) ++ plain after.chars ++ (argument.value.lexemes ++ plain argument.trail.chars))) =
          argument.lead.chars ++ (name.chars ++ (before.chars ++ '=' :: (after.chars ++
            (flatten argument.value.lexemes ++ argument.trail.chars)))) := by
      simp
    rw [Option.elim_some, hflatten, namedArgument_named, ValueForm.trim_flatten]
    dsimp only
    rw [argument.value.attributeValues_flatten, Option.elim_some]

theorem listItems_listText (blanks : Gap) (arguments : List ArgumentForm) :
    listItems (lex (listText blanks arguments)) = arguments.map lexemes := by
  cases arguments with
  | nil =>
    have hwhole : ∀ l ∈ plain blanks.chars, l.IsWhole := fun l hl ↦ (blanks.neutral l hl).2.2
    have hall : (plain blanks.chars).all Lexeme.isBlank = true := List.all_eq_true.2 blanks.isBlank
    rw [listText, ← flatten_plain blanks.chars, lex_flatten hwhole, listItems,
      commaPieces_eq_singleton (blanks.neutral.noSplit 0), List.filter_singleton, hall]
    rfl
  | cons argument arguments =>
    have hwhole : ∀ l ∈ [.char ','].intercalate ((argument :: arguments).map lexemes),
        l.IsWhole := by
      refine forall_mem_intercalate (List.forall_mem_singleton.2 (by decide)) fun piece hpiece ↦ ?_
      obtain ⟨other, -, rfl⟩ := List.mem_map.1 hpiece
      exact other.isWhole
    have hne : (argument :: arguments).map lexemes ≠ [] := List.cons_ne_nil _ _
    rw [listText, lex_flatten hwhole, listItems_intercalate hne]
    intro piece hpiece
    obtain ⟨other, -, rfl⟩ := List.mem_map.1 hpiece
    exact ⟨other.noSplit_lexemes, other.levels_lexemes, other.exists_not_blank⟩

theorem attributes_listText (blanks : Gap) (arguments : List ArgumentForm) :
    attributes (some (listText blanks arguments)) =
      .ofList (arguments.map fun argument ↦ (argument.key, argument.value.strings)) := by
  have hread : attributes (some (listText blanks arguments)) =
      .ofList ((listItems (lex (listText blanks arguments))).map PathArguments.readArgument) := rfl
  rw [hread, listItems_listText, List.map_map]
  congr 1
  exact List.map_congr_left fun argument _ ↦ argument.readArgument_lexemes

/-- Annotation arguments are read as they are meant, whatever their literals hold: each name has,
in order, the contents of an array of literals, the joined contents of a sum, or nothing. -/
theorem entries_attributes_of_literals (blanks : Gap) {arguments : List ArgumentForm}
    (hdistinct : (arguments.map key).Nodup)
    (hliterals : ∀ argument ∈ arguments, ∀ element ∈ argument.value.elements,
      element.sum.others = []) :
    (attributes (some (listText blanks arguments))).entries =
      arguments.map fun argument ↦ (argument.key, argument.value.denoted) := by
  have hkeys : ((arguments.map fun argument ↦ (argument.key, argument.value.strings)).map
      Prod.fst).Nodup := by
    rwa [List.map_map]
  rw [attributes_listText, Registry.entries_ofList hkeys]
  refine List.map_congr_left fun argument hmem ↦ ?_
  rw [argument.value.strings_eq_denoted_iff.2 (hliterals argument hmem)]

end ArgumentForm

namespace Sample

def string (content : String) (closes : Closes '"' (content.toList ++ ['"']))
    (oneLine : '\n' ∉ content.toList) : StringForm :=
  ⟨content.toList, closes, oneLine⟩

/-- Literals with commas, brackets, equals signs and escapes in an array without a name, a sum, a
constant and an empty array. -/
def arguments : List ArgumentForm :=
  [⟨noGap, none, .array noGap
      [⟨space, ⟨string "/a,\x7bb\x7d" (by decide) (by decide), []⟩, space⟩,
        ⟨newline, ⟨string "=\\\"<\\\\" (by decide) (by decide), []⟩, space⟩], space⟩,
    ⟨space, some (identifier "produces" (by decide) (by decide), noGap, space),
      .single ⟨string "(<" (by decide) (by decide),
        [(space, noGap, string ">)," (by decide) (by decide))]⟩, noGap⟩,
    ⟨space, some (identifier "method" (by decide) (by decide), noGap, noGap),
      .constant "RequestMethod.GET".toList (by decide) (List.all_eq_true.1 rfl), noGap⟩,
    ⟨space, some (identifier "params" (by decide) (by decide), space, space),
      .array space [], noGap⟩]

end Sample

theorem ArgumentForm.entries_attributes_of_literals_sample :
    (Sample.arguments.map key).Nodup ∧
      (∀ argument ∈ Sample.arguments, ∀ element ∈ argument.value.elements,
        element.sum.others = []) ∧
      (attributes (some ("\x7b \"/a,\x7bb\x7d\" ,\n\"=\\\"<\\\\\" \x7d , produces= \"(<\" +" ++
        "\">),\", method=RequestMethod.GET, params = \x7b \x7d").toList)).entries =
          [("value", ["/a,\x7bb\x7d", "=\\\"<\\\\"]), ("produces", ["(<>),"]), ("method", []),
            ("params", [])] := by
  have hdistinct : (Sample.arguments.map key).Nodup := by decide
  have hliterals : ∀ argument ∈ Sample.arguments, ∀ element ∈ argument.value.elements,
      element.sum.others = [] := by
    simp [Sample.arguments, ValueForm.elements]
  exact ⟨hdistinct, hliterals, entries_attributes_of_literals Sample.noGap hdistinct hliterals⟩

/-! ## Arrays and their elements -/

namespace ArgumentForm

/-- The argument with another value. -/
def withValue (argument : ArgumentForm) (value : ValueForm) : ArgumentForm :=
  { argument with value }

@[simp]
theorem key_withValue (argument : ArgumentForm) (value : ValueForm) :
    (argument.withValue value).key = argument.key := rfl

/-- The text between the parentheses, if there is no other argument. -/
def text (argument : ArgumentForm) : List Char :=
  flatten argument.lexemes

theorem attributes_text (argument : ArgumentForm) :
    attributes (some argument.text) = .ofList [(argument.key, argument.value.strings)] := by
  have hlist := attributes_listText argument.lead [argument]
  rwa [listText, List.map_singleton, List.intercalate_singleton, List.map_singleton] at hlist

theorem entries_text (argument : ArgumentForm) :
    (attributes (some argument.text)).entries = [(argument.key, argument.value.strings)] := by
  rw [attributes_text]
  exact Registry.entries_ofList (List.nodup_singleton _)

/-- The path template that the text of arguments gives. -/
def template? (arguments : List Char) : Option String :=
  selectTemplate (((attributes (some arguments)).get? "path").getD [])
    (((attributes (some arguments)).get? "value").getD [])

theorem template?_text (argument : ArgumentForm) : template? argument.text =
    if argument.key = "path" ∨ argument.key = "value" then argument.value.strings.head?
    else none := by
  have hget (name : String) : (attributes (some argument.text)).get? name =
      if name = argument.key then some argument.value.strings else none := by
    rw [attributes_text]
    exact Registry.get?_ofList_concat [] _ name
  rw [template?, hget, hget]
  by_cases hpath : argument.key = "path"
  · rw [if_pos hpath.symm, if_neg (by rw [hpath]; decide), if_pos (.inl hpath)]
    cases argument.value.strings <;> rfl
  · by_cases hvalue : argument.key = "value"
    · rw [if_neg (Ne.symm hpath), if_pos hvalue.symm, if_pos (.inr hvalue)]
      rfl
    · rw [if_neg (Ne.symm hpath), if_neg (Ne.symm hvalue), if_neg (not_or.2 ⟨hpath, hvalue⟩)]
      rfl

theorem entries_array_eq_iff (argument : ArgumentForm) (blanks : Gap)
    (elements : List ElementForm) :
    (attributes (some (argument.withValue (.array blanks elements)).text)).entries =
        [(argument.key, elements.map fun element ↦ .ofList element.sum.content)] ↔
      ∀ element ∈ elements, element.sum.others = [] := by
  rw [entries_text, List.cons.injEq, Prod.mk.injEq]
  have hdenoted := (ValueForm.array blanks elements).strings_eq_denoted_iff
  exact ⟨fun h ↦ hdenoted.1 h.1.2, fun h ↦ ⟨⟨rfl, hdenoted.2 h⟩, rfl⟩⟩

theorem attributes_singleton_eq_iff (argument : ArgumentForm) (blanks : Gap)
    (element : ElementForm) :
    attributes (some (argument.withValue (.array blanks [element])).text) =
        attributes (some (argument.withValue (.single element.sum)).text) ↔
      element.sum.others = [] := by
  have harray := argument.entries_array_eq_iff blanks [element]
  rw [List.forall_mem_singleton, List.map_singleton] at harray
  rw [← harray]
  have hsingle := (argument.withValue (.single element.sum)).entries_text
  exact ⟨fun h ↦ (congrArg Registry.entries h).trans hsingle,
    fun h ↦ Registry.ext (h.trans hsingle.symm)⟩

theorem template?_array_eq_iff (argument : ArgumentForm) (blanks : Gap) (element : ElementForm)
    (elements : List ElementForm) :
    template? (argument.withValue (.array blanks (element :: elements))).text =
        template? (argument.withValue (.single element.sum)).text ↔
      (argument.key = "path" ∨ argument.key = "value" →
        ∀ other ∈ element.sum.others, other.2.2.content = []) := by
  rw [template?_text, template?_text, key_withValue, key_withValue]
  by_cases hkey : argument.key = "path" ∨ argument.key = "value"
  · have harray : (argument.withValue (.array blanks (element :: elements))).value.strings.head? =
        some (.ofList element.sum.first.content) := rfl
    have hsingle : (argument.withValue (.single element.sum)).value.strings.head? =
        some (.ofList element.sum.content) := rfl
    rw [if_pos hkey, if_pos hkey, harray, hsingle, Option.some.injEq, String.ofList_inj,
      element.sum.first_content_eq_iff]
    exact (imp_iff_right hkey).symm
  · rw [if_neg hkey, if_neg hkey]
    exact iff_of_true rfl fun h ↦ absurd h hkey

end ArgumentForm

/-- An expression alone is read as what it stands for. An array of expressions is read as these are
alone exactly if each is a single literal: so it is for every name and for the template. -/
theorem ArgumentForm.array_read_as_elements_iff (argument : ArgumentForm) (blanks : Gap) :
    (∀ sum : SumForm,
      (attributes (some (argument.withValue (.single sum)).text)).entries =
        [(argument.key, [.ofList sum.content])]) ∧
    (∀ elements : List ElementForm,
      (attributes (some (argument.withValue (.array blanks elements)).text)).entries =
          [(argument.key, elements.map fun element ↦ .ofList element.sum.content)] ↔
        ∀ element ∈ elements, element.sum.others = []) ∧
    (∀ element : ElementForm,
      attributes (some (argument.withValue (.array blanks [element])).text) =
          attributes (some (argument.withValue (.single element.sum)).text) ↔
        element.sum.others = []) ∧
    ∀ (element : ElementForm) (elements : List ElementForm),
      template? (argument.withValue (.array blanks (element :: elements))).text =
          template? (argument.withValue (.single element.sum)).text ↔
        (argument.key = "path" ∨ argument.key = "value" →
          ∀ other ∈ element.sum.others, other.2.2.content = []) :=
  ⟨fun sum ↦ (argument.withValue (.single sum)).entries_text,
    argument.entries_array_eq_iff blanks, argument.attributes_singleton_eq_iff blanks,
    argument.template?_array_eq_iff blanks⟩

/-- In an array, the parts of a path are read as paths, and the first is the template. -/
theorem ArgumentForm.array_of_sum_read_as_parts :
    (attributes (some "\x7b\"/a\" + \"/b\"\x7d".toList)).entries = [("value", ["/a", "/b"])] ∧
      (attributes (some "\"/a\" + \"/b\"".toList)).entries = [("value", ["/a/b"])] ∧
      template? "\x7b\"/a\" + \"/b\"\x7d".toList = some "/a" ∧
      template? "\"/a\" + \"/b\"".toList = some "/a/b" := by
  decide +kernel

end Written

end EndpointStubs.Java
