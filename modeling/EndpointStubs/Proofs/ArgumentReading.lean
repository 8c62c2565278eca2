import EndpointStubs.Model.Fold
import EndpointStubs.Proofs.JoinedTexts
import EndpointStubs.Proofs.ParameterReading
import EndpointStubs.Proofs.RegistryOrder

/-!
# Reading annotation arguments

The arguments of a mapping annotation with a single string literal, as they are
written: the literal stands alone or in braces, as the unnamed argument or as
`path` or `value`, among other arguments without literals. The content of the
literal is read as the path template, character by character.
-/

namespace EndpointStubs.Java

/-- A content that ends with its literal is read back, whatever follows. -/
theorem closeString_of_closes {content : List Char} (h : Closes '"' (content ++ ['"']))
    (hline : '\n' ∉ content) (rest : List Char) :
    closeString (content ++ '"' :: rest) = some (content, rest) := by
  match content with
  | [] =>
    rw [List.nil_append, closeString.eq_def]
    rfl
  | c :: content =>
    rw [List.mem_cons, not_or] at hline
    rw [List.cons_append, Closes.eq_def] at h
    rw [List.cons_append, closeString.eq_def]
    dsimp only at h ⊢
    split at h
    · rename_i hescape
      rw [if_pos hescape]
      cases content with
      | nil => cases h
      | cons d content =>
        rw [List.mem_cons, not_or] at hline
        have hrest := closeString_of_closes h hline.2.2 rest
        dsimp only [List.cons_append]
        rw [if_neg (Ne.symm hline.2.1), hrest]
        rfl
    · rename_i hescape
      rw [if_neg hescape]
      split at h
      · exact absurd h (List.append_ne_nil_of_right_ne_nil _ (List.cons_ne_nil _ _))
      · rename_i hquote
        rw [if_neg hquote, closeString_of_closes h.2 hline.2 rest]
        rfl
termination_by content.length

theorem stringContents_append_of_not_mem {before : List Char} (h : '"' ∉ before)
    (rest : List Char) : stringContents (before ++ rest) = stringContents rest := by
  induction before with
  | nil => rfl
  | cons c before ih =>
    rw [List.mem_cons, not_or] at h
    rw [List.cons_append, stringContents.eq_def]
    exact (if_neg (Ne.symm h.1)).trans (ih h.2)

theorem stringContents_literal {content rest : List Char}
    (h : closeString (content ++ '"' :: rest) = some (content, rest)) :
    stringContents ('"' :: (content ++ '"' :: rest)) = content :: stringContents rest := by
  rw [stringContents, if_pos rfl]
  split
  · rename_i hsome
    rw [h] at hsome
    cases hsome
    rfl
  · rename_i hnone
    rw [h] at hnone
    cases hnone

theorem stringContents_of_not_mem {text : List Char} (h : '"' ∉ text) :
    stringContents text = [] := by
  have hnil := stringContents_append_of_not_mem h []
  rwa [List.append_nil, stringContents] at hnil

/-- Pieces in which no comma stands outside of brackets are found again. -/
theorem commaPieces_intercalate {pieces : List (List Lexeme)} (hne : pieces ≠ [])
    (h : ∀ piece ∈ pieces, NoSplit 0 piece ∧ levels piece = 0) :
    commaPieces 0 ([.char ','].intercalate pieces) = pieces := by
  induction pieces with
  | nil => exact absurd rfl hne
  | cons piece pieces ih =>
    obtain ⟨hsplit, hlevels⟩ := h piece List.mem_cons_self
    cases pieces with
    | nil =>
      rw [List.intercalate_singleton]
      exact commaPieces_eq_singleton hsplit
    | cons next pieces =>
      have hrest := ih (List.cons_ne_nil _ _) fun p hp ↦ h p (List.mem_cons_of_mem _ hp)
      rw [List.intercalate_cons_cons, List.append_assoc, List.singleton_append,
        commaPieces_append_comma hsplit (by rw [hlevels]; rfl), hrest]

theorem listItems_intercalate {pieces : List (List Lexeme)} (hne : pieces ≠ [])
    (h : ∀ piece ∈ pieces, NoSplit 0 piece ∧ levels piece = 0 ∧ ∃ l ∈ piece, l.isBlank = false) :
    listItems ([.char ','].intercalate pieces) = pieces := by
  rw [listItems, commaPieces_intercalate hne fun piece hpiece ↦
    ⟨(h piece hpiece).1, (h piece hpiece).2.1⟩, List.filter_eq_self]
  intro piece hpiece
  obtain ⟨l, hl, hblank⟩ := (h piece hpiece).2.2
  rw [Bool.not_eq_true', List.all_eq_false]
  exact ⟨l, hl, by rw [hblank]; exact Bool.false_ne_true⟩

/-! ## Single arguments -/

theorem trim_between {lead text trail : List Char} (hlead : ∀ c ∈ lead, Text.isBlank c = true)
    (hstart : ∀ c ∈ text.head?, Text.isBlank c = false)
    (hend : ∀ c ∈ text.getLast?, Text.isBlank c = false) (hne : text ≠ [])
    (htrail : ∀ c ∈ trail, Text.isBlank c = true) : Text.trim (lead ++ (text ++ trail)) = text := by
  have hhead : ∀ c ∈ (text ++ trail).head?, Text.isBlank c = false := by
    rwa [List.head?_append_of_ne_nil _ hne]
  rw [Text.trim, Text.trimStart_append_stop hlead hhead, Text.trimEnd_append_stop hend htrail]

namespace Written

theorem namedArgument_named (lead : Gap) (name : Identifier) (gap : Gap)
    (expression : List Char) :
    namedArgument (lead.chars ++ (name.chars ++ (gap.chars ++ '=' :: expression))) =
      (name.text, Text.trim expression) := by
  obtain ⟨first, others, hchars, hfirst⟩ := name.exists_cons
  have hstart : ∀ c ∈ (name.chars ++ (gap.chars ++ '=' :: expression)).head?,
      Text.isBlank c = false := by
    intro c hc
    rw [hchars] at hc
    cases hc
    exact Text.isBlank_eq_false_of_isWord hfirst
  have hstop : ∀ c ∈ (gap.chars ++ '=' :: expression).head?, Text.isWord c = false := by
    intro c hc
    cases hgap : gap.chars with
    | nil =>
      rw [hgap] at hc
      cases hc
      decide
    | cons b bs =>
      rw [hgap] at hc
      cases hc
      exact Text.isWord_eq_false_of_isBlank (gap.blank c (by rw [hgap]; exact List.mem_cons_self))
  have hequals : ∀ c ∈ ('=' :: expression).head?, Text.isBlank c = false := by
    intro c hc
    cases hc
    decide
  have hname : ¬ name.chars.isEmpty = true := by
    rw [List.isEmpty_iff]
    exact name.ne_nil
  simp only [namedArgument, Text.trimStart_append_stop lead.blank hstart,
    Text.takeWhile_append_stop name.word hstop, Text.dropWhile_append_stop name.word hstop,
    Text.dropWhile_append_stop gap.blank hequals, if_neg hname]
  rfl

theorem namedArgument_unnamed (lead : Gap) {c : Char} (rest : List Char)
    (hblank : Text.isBlank c = false) (hword : Text.isWord c = false) (hne : c ≠ '=') :
    namedArgument (lead.chars ++ c :: rest) = ("value", Text.trim (lead.chars ++ c :: rest)) := by
  have hstart : ∀ d ∈ (c :: rest).head?, Text.isBlank d = false := by
    intro d hd
    cases hd
    exact hblank
  have hstop : ∀ d ∈ (c :: rest).head?, Text.isWord d = false := by
    intro d hd
    cases hd
    exact hword
  simp only [namedArgument, Text.trimStart_append_stop lead.blank hstart,
    Text.dropWhile_of_head hstop, Text.dropWhile_of_head hstart]
  split
  · rename_i heq
    exact absurd (List.cons.inj heq).1 hne
  · rfl

/-- An argument without literals: a name and what is assigned to it. -/
structure OtherArgument where
  lead : Gap
  name : Identifier
  gap : Gap
  expression : List Char
  noQuote : ∀ c ∈ expression, isQuote c = false
  noSplit : NoSplit 0 (plain expression)
  levels_eq : levels (plain expression) = 0

/-- The lexemes are no commas and no brackets, and they are read back. -/
def Neutral (ls : List Lexeme) : Prop :=
  ∀ l ∈ ls, l ≠ .char ',' ∧ level l = 0 ∧ l.IsWhole

theorem Neutral.append {xs ys : List Lexeme} (hxs : Neutral xs) (hys : Neutral ys) :
    Neutral (xs ++ ys) :=
  List.forall_mem_append.2 ⟨hxs, hys⟩

theorem Neutral.noSplit {ls : List Lexeme} (h : Neutral ls) (depth : Int) : NoSplit depth ls :=
  noSplit_of_forall (fun l hl ↦ (h l hl).1) depth

theorem Neutral.levels_eq_zero {ls : List Lexeme} (h : Neutral ls) : levels ls = 0 :=
  Java.levels_eq_zero fun l hl ↦ (h l hl).2.1

theorem neutral_plain {chars : List Char}
    (h : ∀ c ∈ chars, Text.isBlank c = true ∨ Text.isWord c = true) : Neutral (plain chars) := by
  have hquotes : ['"', '\''].any (fun c ↦ Text.isBlank c || Text.isWord c) = false := by decide
  intro l hl
  obtain ⟨hcomma, hlevel⟩ := Parameter.neutral_plain h l hl
  obtain ⟨c, hc, rfl⟩ := List.mem_map.1 hl
  refine ⟨hcomma, hlevel, ?_⟩
  have hnot : c ∉ ['"', '\''] := fun hmem ↦
    List.any_eq_false.1 hquotes c hmem (Bool.or_eq_true _ _ ▸ h c hc)
  simpa [Lexeme.IsWhole, isQuote] using hnot

theorem Gap.neutral (gap : Gap) : Neutral (plain gap.chars) :=
  neutral_plain fun c hc ↦ .inl (gap.blank c hc)

theorem Identifier.neutral (name : Identifier) : Neutral (plain name.chars) :=
  neutral_plain fun c hc ↦ .inr (name.word c hc)

/-- A name and the sign after it. -/
theorem neutral_assignment (name : Identifier) (gap : Gap) :
    Neutral (plain (name.chars ++ (gap.chars ++ ['=']))) := by
  have hequals : Neutral (plain ['=']) := fun l hl ↦ by
    rw [List.mem_singleton.1 hl]
    decide
  rw [plain_append, plain_append]
  exact name.neutral.append (gap.neutral.append hequals)

namespace OtherArgument

def lexemes (argument : OtherArgument) : List Lexeme :=
  plain argument.lead.chars ++ (plain (argument.name.chars ++ (argument.gap.chars ++ ['='])) ++
    plain argument.expression)

theorem noSplit_lexemes (argument : OtherArgument) : NoSplit 0 argument.lexemes := by
  rw [lexemes, noSplit_append, noSplit_append, argument.lead.neutral.levels_eq_zero,
    (neutral_assignment _ _).levels_eq_zero]
  exact ⟨argument.lead.neutral.noSplit 0, (neutral_assignment _ _).noSplit _, argument.noSplit⟩

theorem levels_lexemes (argument : OtherArgument) : levels argument.lexemes = 0 := by
  rw [lexemes, levels_append, levels_append, argument.lead.neutral.levels_eq_zero,
    (neutral_assignment _ _).levels_eq_zero, argument.levels_eq]
  rfl

theorem isWhole (argument : OtherArgument) : ∀ l ∈ argument.lexemes, l.IsWhole := by
  have hexpression : ∀ l ∈ plain argument.expression, l.IsWhole := by
    intro l hl
    obtain ⟨c, hc, rfl⟩ := List.mem_map.1 hl
    exact argument.noQuote c hc
  refine List.forall_mem_append.2 ⟨fun l hl ↦ (argument.lead.neutral l hl).2.2, ?_⟩
  exact List.forall_mem_append.2
    ⟨fun l hl ↦ (neutral_assignment _ _ l hl).2.2, hexpression⟩

theorem exists_not_blank (argument : OtherArgument) :
    ∃ l ∈ argument.lexemes, l.isBlank = false := by
  refine ⟨.char '=', ?_, by decide⟩
  simp [lexemes, plain]

/-- The argument has no string values. -/
theorem namedArgument_lexemes (argument : OtherArgument) :
    ∃ expression, namedArgument (flatten argument.lexemes) = (argument.name.text, expression) ∧
      attributeValues expression = [] := by
  refine ⟨Text.trim argument.expression, ?_, ?_⟩
  · have hflatten : flatten argument.lexemes = argument.lead.chars ++ (argument.name.chars ++
        (argument.gap.chars ++ '=' :: argument.expression)) := by
      simp [lexemes]
    rw [hflatten, namedArgument_named]
  · have hquote : '"' ∉ Text.trim argument.expression := by
      intro hmem
      have hquote := argument.noQuote '"' (Text.mem_of_mem_trim hmem)
      cases hquote
    rw [attributeValues, stringContents_of_not_mem hquote]
    split <;> rfl

end OtherArgument

/-- The argument that is the path: a literal, alone or in braces, with or without a name. -/
structure PathArgument where
  lead : Gap
  /-- The name with the blanks before and after the sign that follows it. -/
  name : Option (Identifier × Gap × Gap)
  known : ∀ x ∈ name, x.1.text = "path" ∨ x.1.text = "value"
  /-- The blanks inside the braces. -/
  braces : Option (Gap × Gap)
  content : List Char
  closes : Closes '"' (content ++ ['"'])
  oneLine : '\n' ∉ content
  trail : Gap

theorem Gap.not_mem_quote (gap : Gap) : '"' ∉ gap.chars := fun hmem ↦ by
  have hblank := gap.blank '"' hmem
  revert hblank
  decide

namespace PathArgument

/-- The attribute that the literal is the value of. -/
def key (argument : PathArgument) : String :=
  argument.name.elim "value" (·.1.text)

def literal (argument : PathArgument) : Lexeme :=
  .literal ('"' :: (argument.content ++ ['"']))

/-- The literal, with the braces around it. -/
def value (argument : PathArgument) : List Lexeme :=
  match argument.braces with
  | none => [argument.literal]
  | some (before, after) =>
    [.char '{'] ++ (plain before.chars ++ ([argument.literal] ++ (plain after.chars ++ [.char '}'])))

/-- The name and the sign after it, if there is a name. -/
def assignment (argument : PathArgument) : List Lexeme :=
  argument.name.elim [] fun (name, before, after) ↦
    plain (name.chars ++ (before.chars ++ ['='])) ++ plain after.chars

def lexemes (argument : PathArgument) : List Lexeme :=
  plain argument.lead.chars ++ (argument.assignment ++
    (argument.value ++ plain argument.trail.chars))

theorem neutral_literal (argument : PathArgument) : Neutral [argument.literal] := fun l hl ↦ by
  rw [List.mem_singleton.1 hl]
  exact ⟨nofun, rfl, rfl, argument.closes⟩

theorem neutral_assignment (argument : PathArgument) : Neutral argument.assignment := by
  rw [assignment]
  cases argument.name with
  | none => exact fun l hl ↦ absurd hl List.not_mem_nil
  | some x => exact (Written.neutral_assignment _ _).append x.2.2.neutral

theorem forall_mem_value (argument : PathArgument) :
    ∀ l ∈ argument.value, l ≠ .char ',' ∧ l.IsWhole := by
  have hneutral {ls : List Lexeme} (h : Neutral ls) : ∀ l ∈ ls, l ≠ .char ',' ∧ l.IsWhole :=
    fun l hl ↦ ⟨(h l hl).1, (h l hl).2.2⟩
  rw [value]
  split
  · exact hneutral argument.neutral_literal
  · rename_i before after _
    simp only [List.forall_mem_append]
    exact ⟨by decide, hneutral before.neutral, hneutral argument.neutral_literal,
      hneutral after.neutral, by decide⟩

theorem levels_value (argument : PathArgument) : levels argument.value = 0 := by
  rw [value]
  split
  · exact argument.neutral_literal.levels_eq_zero
  · rename_i before after _
    rw [levels_append, levels_append, levels_append, levels_append, before.neutral.levels_eq_zero,
      argument.neutral_literal.levels_eq_zero, after.neutral.levels_eq_zero]
    rfl

theorem noSplit_lexemes (argument : PathArgument) : NoSplit 0 argument.lexemes := by
  refine noSplit_of_forall ?_ 0
  simp only [lexemes, List.forall_mem_append]
  exact ⟨fun l hl ↦ (argument.lead.neutral l hl).1,
    fun l hl ↦ (argument.neutral_assignment l hl).1, fun l hl ↦ (argument.forall_mem_value l hl).1,
    fun l hl ↦ (argument.trail.neutral l hl).1⟩

theorem levels_lexemes (argument : PathArgument) : levels argument.lexemes = 0 := by
  rw [lexemes, levels_append, levels_append, levels_append, argument.lead.neutral.levels_eq_zero,
    argument.neutral_assignment.levels_eq_zero, argument.levels_value,
    argument.trail.neutral.levels_eq_zero]
  rfl

theorem isWhole (argument : PathArgument) : ∀ l ∈ argument.lexemes, l.IsWhole := by
  simp only [lexemes, List.forall_mem_append]
  exact ⟨fun l hl ↦ (argument.lead.neutral l hl).2.2,
    fun l hl ↦ (argument.neutral_assignment l hl).2.2,
    fun l hl ↦ (argument.forall_mem_value l hl).2, fun l hl ↦ (argument.trail.neutral l hl).2.2⟩

theorem exists_not_blank (argument : PathArgument) : ∃ l ∈ argument.lexemes, l.isBlank = false := by
  refine ⟨argument.literal, ?_, rfl⟩
  rw [lexemes, value]
  split <;> simp

/-- The literal as it is written. -/
def quoted (argument : PathArgument) (rest : List Char) : List Char :=
  '"' :: (argument.content ++ '"' :: rest)

theorem stringContents_quoted (argument : PathArgument) {rest : List Char} (h : '"' ∉ rest) :
    stringContents (argument.quoted rest) = [argument.content] := by
  rw [quoted, stringContents_literal (closeString_of_closes argument.closes argument.oneLine rest),
    stringContents_of_not_mem h]

/-- The value reads as the content of the literal. -/
theorem attributeValues_value (argument : PathArgument) :
    attributeValues (flatten argument.value) = [.ofList argument.content] := by
  rw [value]
  split
  · have hflatten : flatten [argument.literal] = argument.quoted [] := by
      simp [literal, quoted, Lexeme.chars]
    rw [hflatten, attributeValues, argument.stringContents_quoted List.not_mem_nil]
    simp [quoted]
  · rename_i before after _
    have hflatten : flatten ([.char '{'] ++ (plain before.chars ++ ([argument.literal] ++
        (plain after.chars ++ [.char '}'])))) =
          ('{' :: before.chars) ++ argument.quoted (after.chars ++ ['}']) := by
      simp [literal, quoted, Lexeme.chars]
    have hbefore : '"' ∉ '{' :: before.chars := by
      simpa using before.not_mem_quote
    have hafter : '"' ∉ after.chars ++ ['}'] := by
      simpa using after.not_mem_quote
    rw [hflatten, attributeValues, stringContents_append_of_not_mem hbefore,
      argument.stringContents_quoted hafter]
    rfl

/-- The value begins and ends with a mark. -/
theorem exists_flatten_value (argument : PathArgument) :
    ∃ c middle d, flatten argument.value = c :: (middle ++ [d]) ∧ (c = '"' ∨ c = '{') ∧
      (d = '"' ∨ d = '}') := by
  rw [value]
  split
  · exact ⟨'"', argument.content, '"', by simp [literal, Lexeme.chars], .inl rfl, .inl rfl⟩
  · rename_i before after _
    exact ⟨'{', before.chars ++ ('"' :: (argument.content ++ ['"']) ++ after.chars), '}',
      by simp [literal, Lexeme.chars], .inr rfl, .inr rfl⟩

/-- The argument is read with its value. -/
theorem namedArgument_lexemes (argument : PathArgument) :
    namedArgument (flatten argument.lexemes) = (argument.key, flatten argument.value) := by
  obtain ⟨c, middle, d, hvalue, hc, hd⟩ := argument.exists_flatten_value
  have hmarks : Text.isBlank c = false ∧ Text.isWord c = false ∧ c ≠ '=' := by
    rcases hc with rfl | rfl <;> decide
  have hstart : ∀ e ∈ (flatten argument.value).head?, Text.isBlank e = false := by
    intro e he
    rw [hvalue] at he
    cases he
    exact hmarks.1
  have hend : ∀ e ∈ (flatten argument.value).getLast?, Text.isBlank e = false := by
    intro e he
    rw [hvalue, ← List.cons_append, List.getLast?_concat] at he
    cases he
    rcases hd with rfl | rfl <;> decide
  have hne : flatten argument.value ≠ [] := hvalue ▸ List.cons_ne_nil _ _
  have htrim (gap : Gap) : Text.trim (gap.chars ++ (flatten argument.value ++
      argument.trail.chars)) = flatten argument.value :=
    trim_between gap.blank hstart hend hne argument.trail.blank
  rw [lexemes, assignment, key]
  cases argument.name with
  | none =>
    have hflatten : flatten (plain argument.lead.chars ++ ([] ++ (argument.value ++
        plain argument.trail.chars))) = argument.lead.chars ++
          c :: (middle ++ [d] ++ argument.trail.chars) := by
      simp [hvalue]
    have hread := namedArgument_unnamed argument.lead (middle ++ [d] ++ argument.trail.chars)
      hmarks.1 hmarks.2.1 hmarks.2.2
    rw [← List.cons_append, ← hvalue, htrim] at hread
    rw [Option.elim_none, hflatten, ← List.cons_append, ← hvalue, hread]
    rfl
  | some x =>
    obtain ⟨name, before, after⟩ := x
    have hflatten : flatten (plain argument.lead.chars ++ (plain (name.chars ++ (before.chars ++
        ['='])) ++ plain after.chars ++ (argument.value ++ plain argument.trail.chars))) =
          argument.lead.chars ++ (name.chars ++ (before.chars ++ '=' :: (after.chars ++
            (flatten argument.value ++ argument.trail.chars)))) := by
      simp
    rw [Option.elim_some, hflatten, namedArgument_named, htrim]
    rfl

end PathArgument

/-- The arguments of a mapping annotation with a single string literal, the path. -/
structure PathArguments where
  before : List OtherArgument
  path : PathArgument
  after : List OtherArgument
  /-- No attribute is given twice. -/
  distinct : ∀ other ∈ before ++ after, other.name.text ≠ path.key

namespace PathArguments

def pieces (arguments : PathArguments) : List (List Lexeme) :=
  arguments.before.map OtherArgument.lexemes ++
    arguments.path.lexemes :: arguments.after.map OtherArgument.lexemes

/-- The text between the parentheses of the annotation. -/
def text (arguments : PathArguments) : List Char :=
  flatten ([.char ','].intercalate arguments.pieces)

variable {arguments : PathArguments}

theorem mem_pieces_iff {piece : List Lexeme} : piece ∈ arguments.pieces ↔
    (∃ other ∈ arguments.before ++ arguments.after, other.lexemes = piece) ∨
      piece = arguments.path.lexemes := by
  simp only [pieces, List.mem_append, List.mem_cons, List.mem_map, or_and_right, exists_or]
  rw [or_assoc]
  exact or_congr_right or_comm

theorem listItems_text : listItems (lex arguments.text) = arguments.pieces := by
  have hne : arguments.pieces ≠ [] :=
    List.append_ne_nil_of_right_ne_nil _ (List.cons_ne_nil _ _)
  have hwhole : ∀ l ∈ [.char ','].intercalate arguments.pieces, l.IsWhole := by
    refine forall_mem_intercalate (List.forall_mem_singleton.2 (by decide)) fun piece hpiece ↦ ?_
    rcases mem_pieces_iff.1 hpiece with ⟨other, -, rfl⟩ | rfl
    · exact other.isWhole
    · exact arguments.path.isWhole
  rw [text, lex_flatten hwhole, listItems_intercalate hne]
  intro piece hpiece
  rcases mem_pieces_iff.1 hpiece with ⟨other, -, rfl⟩ | rfl
  · exact ⟨other.noSplit_lexemes, other.levels_lexemes, other.exists_not_blank⟩
  · exact ⟨arguments.path.noSplit_lexemes, arguments.path.levels_lexemes,
      arguments.path.exists_not_blank⟩

/-- An argument as an attribute with its values. -/
def readArgument (item : List Lexeme) : String × List String :=
  let (name, expression) := namedArgument (flatten item)
  (name, attributeValues expression)

/-- The attributes: the path, and others without values. -/
theorem attributes_text : attributes (some arguments.text) =
    .ofList (arguments.before.map (fun other ↦ (other.name.text, [])) ++
      (arguments.path.key, [.ofList arguments.path.content]) ::
        arguments.after.map fun other ↦ (other.name.text, [])) := by
  have hother (other : OtherArgument) : readArgument other.lexemes = (other.name.text, []) := by
    obtain ⟨expression, hread, hvalues⟩ := other.namedArgument_lexemes
    rw [readArgument, hread]
    dsimp only
    rw [hvalues]
  have hpath : readArgument arguments.path.lexemes =
      (arguments.path.key, [.ofList arguments.path.content]) := by
    rw [readArgument, arguments.path.namedArgument_lexemes]
    dsimp only
    rw [arguments.path.attributeValues_value]
  have hattributes : attributes (some arguments.text) =
      .ofList ((listItems (lex arguments.text)).map readArgument) := rfl
  rw [hattributes, listItems_text, pieces, List.map_append, List.map_cons, List.map_map,
    List.map_map, hpath]
  simp only [Function.comp_def, hother]

/-- The content of the literal is the path template. -/
theorem selectTemplate_text :
    selectTemplate (((attributes (some arguments.text)).get? "path").getD [])
      (((attributes (some arguments.text)).get? "value").getD []) =
        some (.ofList arguments.path.content) := by
  have hpath : (attributes (some arguments.text)).get? arguments.path.key =
      some [.ofList arguments.path.content] := by
    rw [attributes_text]
    apply Registry.get?_ofList_append
    intro hmem
    obtain ⟨entry, hentry, hname⟩ := List.mem_map.1 hmem
    obtain ⟨other, hother, rfl⟩ := List.mem_map.1 hentry
    exact arguments.distinct other (List.mem_append_right _ hother) hname
  have hothers {name : String} (hname : name ≠ arguments.path.key) :
      ((attributes (some arguments.text)).get? name).getD [] = [] := by
    cases hget : (attributes (some arguments.text)).get? name with
    | none => rfl
    | some values =>
      rw [attributes_text] at hget
      have hmem := Registry.mem_of_get?_ofList hget
      simp only [List.mem_append, List.mem_cons, List.mem_map, Prod.mk.injEq] at hmem
      rcases hmem with ⟨other, -, -, rfl⟩ | ⟨rfl, -⟩ | ⟨other, -, -, rfl⟩
      · rfl
      · exact absurd rfl hname
      · rfl
  have hkey : arguments.path.key = "path" ∨ arguments.path.key = "value" := by
    have hknown := arguments.path.known
    rw [PathArgument.key]
    cases hname : arguments.path.name with
    | none => exact .inr rfl
    | some x => exact hknown x hname
  rcases hkey with hkey | hkey
  · rw [hkey] at hpath
    rw [hpath]
    rfl
  · rw [hkey] at hpath hothers
    rw [hpath, hothers (by decide)]
    rfl

end PathArguments

end Written

end EndpointStubs.Java
