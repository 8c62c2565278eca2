import EndpointStubs.Files.Search
import EndpointStubs.Proofs.DeclaredTypes
import EndpointStubs.Proofs.HeaderReading
import EndpointStubs.Proofs.JoinedTexts
import EndpointStubs.Proofs.Layout

/-!
# Mentions of controllers

Whether a source is worth scanning is decided on its text as it is, comments and
all; the scanner takes the comments out and reads headers. Both find the same
annotations of controllers, as long as nothing but blanks stands between an at
sign and the name behind it. A comment there hides the annotation from the first
test only, so the file is passed over although it declares a controller.
-/

namespace EndpointStubs

namespace Java

/-- A literal that was read from a text is read again, with other text behind it. If it runs to the
end of the text, it may be open, so that nothing can come behind it. -/
theorem literalTail_fst_append {quote : Char} {text more : List Char}
    (h : (literalTail quote text).2 = [] → more = []) :
    literalTail quote ((literalTail quote text).1 ++ more) = ((literalTail quote text).1, more) := by
  fun_induction literalTail quote text with
  | case1 => rw [h rfl, List.append_nil, literalTail]
  | case2 =>
    rw [h rfl]
    rfl
  | case3 escaped rest inside outside hrest ih =>
    rw [hrest] at ih
    rw [List.cons_append, List.cons_append, literalTail.eq_def]
    simp only [if_true, ih h]
  | case4 c rest hescape hend =>
    rw [List.singleton_append, literalTail.eq_def]
    simp only [if_neg hescape, if_pos hend]
  | case5 c rest hescape hend inside outside hrest ih =>
    rw [hrest] at ih
    rw [List.cons_append, literalTail.eq_def]
    simp only [if_neg hescape, if_neg hend, ih h]

/-- Without its comments, a text has the lexemes of its passages. -/
theorem lex_stripComments (text : List Char) :
    lex (stripComments text) = (passages text).flatMap Passage.lexemes := by
  unfold stripComments
  fun_induction passages text with
  | case1 => rw [List.flatMap_nil, List.flatMap_nil, lex]
  | case2 rest ih => rw [List.flatMap_cons, List.flatMap_cons, Passage.kept, List.nil_append, ih]; rfl
  | case3 rest ih =>
    rw [List.flatMap_cons, List.flatMap_cons, Passage.kept, List.singleton_append, lex,
      if_neg (by decide), ih]
    rfl
  | case4 c rest hline hblock hquote ih =>
    have hmore : (literalTail c rest).2 = [] →
        (passages (literalTail c rest).2).flatMap Passage.kept = [] := by
      intro hnil
      rw [hnil, passages, List.flatMap_nil]
    rw [List.flatMap_cons, List.flatMap_cons, Passage.kept, List.cons_append, lex, if_pos hquote,
      literalTail_fst_append hmore, ih]
    rfl
  | case5 c rest hline hblock hquote ih =>
    rw [List.flatMap_cons, List.flatMap_cons, Passage.kept, List.singleton_append, lex,
      if_neg hquote, ih]
    rfl

/-- What is read from the middle of a text on, between two passages, is what was read there. -/
theorem passages_flatMap_chars_of_append {text : List Char} {before after : List Passage}
    (h : passages text = before ++ after) : passages (after.flatMap Passage.chars) = after := by
  induction before generalizing text with
  | nil => rw [← List.nil_append after, ← h, flatMap_chars_passages]
  | cons p before ih =>
    obtain ⟨rest, hrest⟩ : ∃ rest, passages rest = before ++ after := by
      rw [passages.eq_def] at h
      split at h
      · cases h
      · exact ⟨_, (List.cons.inj h).2⟩
      · exact ⟨_, (List.cons.inj h).2⟩
      · split at h <;> exact ⟨_, (List.cons.inj h).2⟩
    exact ih hrest

/-- The dotted name behind an at sign. -/
def nameBehind (after : List Lexeme) : List Char :=
  flatten ((after.dropWhile Lexeme.isBlank).takeWhile (Lexeme.is Text.isWordOrDot))

theorem takeWhile_lexemes_passages (text : List Char) :
    flatten (((passages text).flatMap Passage.lexemes).takeWhile (Lexeme.is Text.isWordOrDot)) =
      text.takeWhile Text.isWordOrDot := by
  have hslash : Text.isWordOrDot '/' = false := by decide
  fun_induction passages text with
  | case1 => rfl
  | case2 rest ih =>
    have hline : (rest.dropWhile (· != '\n')).takeWhile Text.isWordOrDot = [] := by
      cases hrest : rest.dropWhile (· != '\n') with
      | nil => rfl
      | cons c lines =>
        have hnewline := List.head?_dropWhile_not (· != '\n') rest
        rw [hrest, List.head?_cons] at hnewline
        obtain rfl : c = '\n' := by simpa using hnewline
        rfl
    rw [List.flatMap_cons, Passage.lexemes, List.nil_append, ih, hline, List.takeWhile_cons, hslash]
    rfl
  | case3 rest ih =>
    rw [List.takeWhile_cons, hslash]
    rfl
  | case4 c rest hline hblock hquote ih =>
    have hword : Text.isWordOrDot c = false := by
      rw [isQuote, Bool.or_eq_true, beq_iff_eq, beq_iff_eq] at hquote
      rcases hquote with rfl | rfl <;> decide
    rw [List.takeWhile_cons, hword]
    rfl
  | case5 c rest hline hblock hquote ih =>
    rw [List.flatMap_cons, Passage.lexemes, List.singleton_append, List.takeWhile_cons,
      List.takeWhile_cons, Lexeme.is]
    cases Text.isWordOrDot c with
    | true =>
      rw [if_pos rfl, if_pos rfl, flatten_cons, ih]
      rfl
    | false => rfl

namespace Passage

def isBlank : Passage → Bool
  | code c => Text.isBlank c
  | _ => false

def isComment : Passage → Bool
  | lineComment _ | blockComment _ => true
  | _ => false

end Passage

/-- A comment stands before what comes next, perhaps behind blanks. -/
def startsWithComment (after : List Passage) : Bool :=
  (after.dropWhile Passage.isBlank).head?.any Passage.isComment

theorem dropWhile_lexemes_passages {text : List Char}
    (h : startsWithComment (passages text) = false) :
    ((passages text).flatMap Passage.lexemes).dropWhile Lexeme.isBlank =
      (passages (Text.trimStart text)).flatMap Passage.lexemes := by
  induction text with
  | nil =>
    rw [Text.trimStart, List.dropWhile_nil, passages, List.flatMap_nil, List.dropWhile_nil]
  | cons c rest ih =>
    cases hblank : Text.isBlank c with
    | true =>
      have hquote : isQuote c = false := by
        rw [isQuote, Bool.or_eq_false_iff, beq_eq_false_iff_ne, beq_eq_false_iff_ne]
        constructor <;> rintro rfl <;> exact absurd hblank (by decide)
      have hslash : c ≠ '/' := by
        rintro rfl
        exact absurd hblank (by decide)
      have hcode : passages (c :: rest) = .code c :: passages rest :=
        passages_code hquote fun heq ↦ absurd heq hslash
      have hpassage : Passage.isBlank (.code c) = true := hblank
      have hlexeme : Lexeme.isBlank (.char c) = true := hblank
      rw [startsWithComment, hcode, List.dropWhile_cons_of_pos hpassage] at h
      rw [hcode, List.flatMap_cons, Passage.lexemes, List.singleton_append,
        List.dropWhile_cons_of_pos hlexeme, ih h, Text.trimStart, Text.trimStart,
        List.dropWhile_cons_of_pos hblank]
    | false =>
      have hstart : Text.trimStart (c :: rest) = c :: rest :=
        List.dropWhile_cons_of_neg (Bool.eq_false_iff.1 hblank)
      have hchars := flatMap_chars_passages (c :: rest)
      rw [hstart]
      cases hps : passages (c :: rest) with
      | nil => rfl
      | cons p ps =>
        rw [hps] at h hchars
        cases p with
        | code d =>
          obtain rfl : d = c := (List.cons.inj hchars).1
          have hlexeme : ¬ Lexeme.isBlank (.char d) = true := Bool.eq_false_iff.1 hblank
          exact List.dropWhile_cons_of_neg hlexeme
        | literal text => rfl
        | lineComment text | blockComment text => cases h

/-- Where no comment comes first, the name behind an at sign stands in the text itself. -/
theorem nameBehind_lexemes_passages {text : List Char}
    (h : startsWithComment (passages text) = false) :
    nameBehind ((passages text).flatMap Passage.lexemes) =
      (Text.trimStart text).takeWhile Text.isWordOrDot := by
  rw [nameBehind, dropWhile_lexemes_passages h, takeWhile_lexemes_passages]

/-- The dotted name is that of a controller annotation, perhaps by a qualified name. -/
def endsInControllerName (dottedName : List Char) : Bool :=
  isControllerName (simpleName dottedName).toList

/-- The part behind the last dot is one of the pieces between the dots. -/
theorem simpleName_mem_splitAt (name : List Char) :
    (simpleName name).toList ∈ Text.splitAt '.' name := by
  have hname := Text.splitTrailing_append (· != '.') name
  have hlast : '.' ∉ (Text.splitTrailing (· != '.') name).2 := fun hmem ↦
    absurd (forall_mem_splitTrailing '.' hmem) (by decide)
  have hstop : ∀ c ∈ (Text.splitTrailing (· != '.') name).1.getLast?, c = '.' := by
    intro c hc
    rw [Text.splitTrailing, List.getLast?_reverse] at hc
    have hhead := List.head?_dropWhile_not (· != '.') name.reverse
    rw [Option.mem_def.1 hc] at hhead
    simpa using hhead
  rw [simpleName, String.toList_ofList]
  generalize (Text.splitTrailing (· != '.') name).1 = before at hname hstop
  generalize (Text.splitTrailing (· != '.') name).2 = last at hname hlast ⊢
  rcases List.eq_nil_or_concat before with rfl | ⟨qualifier, c, rfl⟩
  · have hsingle := @splitAt_intercalate _ _ '.' [last] (by simpa using hlast) (by simp)
    rw [List.intercalate_singleton] at hsingle
    rw [← hname, List.nil_append, hsingle]
    exact List.mem_singleton_self _
  · rw [List.concat_eq_append] at hname hstop
    obtain rfl := hstop c (by rw [List.getLast?_concat]; rfl)
    have hpieces : ∀ piece ∈ Text.splitAt '.' qualifier ++ [last], '.' ∉ piece := by
      intro piece hpiece
      rcases List.mem_append.1 hpiece with hpiece | hpiece
      · exact fun hmem ↦ (mem_of_mem_splitAt hpiece '.' hmem).2 rfl
      · rw [List.mem_singleton.1 hpiece]
        exact hlast
    have hjoined := splitAt_intercalate hpieces (by simp)
    rw [intercalate_append (Text.splitAt_ne_nil _ _) (List.cons_ne_nil _ _),
      Text.intercalate_splitAt, List.intercalate_singleton, List.append_cons, hname] at hjoined
    rw [hjoined]
    exact List.mem_append_right _ (List.mem_singleton_self _)

/-- Names of controller annotations are recognised, unless they start with a dot. -/
theorem namesController_of_endsInControllerName {name : List Char}
    (h : endsInControllerName name = true) (hdot : name.head? ≠ some '.') :
    namesController name = true := by
  unfold namesController
  split
  · rename_i segment segments hsplit
    have hname := Text.intercalate_splitAt '.' name
    rw [hsplit, List.intercalate_cons_cons] at hname
    rw [← hname] at hdot
    exact absurd rfl hdot
  · exact List.any_eq_true.2 ⟨_, simpleName_mem_splitAt name, h⟩

theorem mentionsController_append {before after : List Char}
    (h : namesController ((Text.trimStart after).takeWhile Text.isWordOrDot) = true) :
    mentionsController (before ++ '@' :: after) = true := by
  induction before with
  | nil => rw [List.nil_append, mentionsController, h]; rfl
  | cons c before ih => rw [List.cons_append, mentionsController, ih, Bool.or_true]

/-- The annotation is written at an at sign of the text. -/
def AnnotationUse.StandsIn (a : AnnotationUse) (text : List Lexeme) : Prop :=
  ∃ before after, text = before ++ .char '@' :: after ∧ a.name = simpleName (nameBehind after)

/-- A name ends where something comes that is neither blank nor part of a name. -/
theorem nameBehind_append {l : Lexeme} (hblank : l.isBlank = false)
    (hword : l.is Text.isWordOrDot = false) (after more : List Lexeme) :
    nameBehind (after ++ l :: more) = nameBehind after := by
  have hstop : ∀ ls : List Lexeme, (ls ++ l :: more).takeWhile (Lexeme.is Text.isWordOrDot) =
      ls.takeWhile (Lexeme.is Text.isWordOrDot) := by
    intro ls
    induction ls with
    | nil =>
      rw [List.nil_append, List.takeWhile_cons_of_neg (by rw [hword]; exact Bool.false_ne_true),
        List.takeWhile_nil]
    | cons m ls ih => rw [List.cons_append, List.takeWhile_cons, List.takeWhile_cons, ih]
  have hskip : (after ++ l :: more).dropWhile Lexeme.isBlank =
      after.dropWhile Lexeme.isBlank ++ l :: more := by
    induction after with
    | nil => exact List.dropWhile_cons_of_neg (by rw [hblank]; exact Bool.false_ne_true)
    | cons m after ih =>
      rw [List.cons_append, List.dropWhile_cons, List.dropWhile_cons, ih]
      split <;> rfl
  rw [nameBehind, hskip, hstop, nameBehind]

namespace AnnotationUse

variable {a : AnnotationUse} {text : List Lexeme}

theorem StandsIn.append_left (h : a.StandsIn text) (more : List Lexeme) :
    a.StandsIn (more ++ text) := by
  obtain ⟨before, after, rfl, hname⟩ := h
  exact ⟨more ++ before, after, (List.append_assoc ..).symm, hname⟩

theorem StandsIn.append_right (h : a.StandsIn text) {l : Lexeme} (hblank : l.isBlank = false)
    (hword : l.is Text.isWordOrDot = false) (more : List Lexeme) :
    a.StandsIn (text ++ l :: more) := by
  obtain ⟨before, after, rfl, hname⟩ := h
  refine ⟨before, after ++ l :: more, List.append_assoc .., ?_⟩
  rw [nameBehind_append hblank hword, hname]

theorem StandsIn.of_suffix {rest : List Lexeme} (h : a.StandsIn rest) (hsuffix : rest <:+ text) :
    a.StandsIn text := by
  obtain ⟨before, rfl⟩ := hsuffix
  exact h.append_left before

end AnnotationUse

theorem peelAnnotated_annotated {header afterAt rest : List Lexeme} {a : AnnotationUse}
    (h : peelAnnotated header afterAt = .annotated a rest) :
    a.name = simpleName (nameBehind afterAt) ∧ rest <:+ afterAt := by
  have hrest : (afterAt.dropWhile Lexeme.isBlank).dropWhile (Lexeme.is Text.isWordOrDot) <:+
      afterAt := (List.dropWhile_suffix _).trans (List.dropWhile_suffix _)
  unfold peelAnnotated at h
  dsimp only at h
  split at h
  · cases h
  · split at h
    · rename_i inner hinner
      split at h
      · rename_i arguments outside hclosing
        cases h
        have hinside : .char '(' :: inner <:+ afterAt :=
          hinner ▸ (List.dropWhile_suffix _).trans hrest
        have houtside : rest <:+ .char '(' :: inner := by
          rw [append_of_closing hclosing]
          exact ⟨.char '(' :: arguments ++ [.char ')'], by simp⟩
        exact ⟨rfl, houtside.trans hinside⟩
      · cases h
    · cases h
      exact ⟨rfl, hrest⟩

/-- An annotation that is peeled off stands at the front, and the rest comes behind it. -/
theorem peel_annotated {header rest : List Lexeme} {a : AnnotationUse}
    (h : peel header = .annotated a rest) : a.StandsIn header ∧ rest <:+ header := by
  cases header with
  | nil => cases h
  | cons l tail =>
    rw [peel] at h
    split at h
    · cases h
    · split at h
      · rename_i hat
        obtain ⟨hname, hrest⟩ := peelAnnotated_annotated h
        rw [hat]
        exact ⟨⟨[], tail, rfl, hname⟩, hrest.trans (List.suffix_cons _ _)⟩
      · dsimp only at h
        split at h <;> cases h

theorem standsIn_of_mem_peelHeader {header : List Lexeme} {a : AnnotationUse}
    (h : a ∈ (peelHeader header).1) : a.StandsIn header := by
  fun_induction peelHeader header with
  | case1 header first rest hpeel annotations declaration hrest ih =>
    obtain ⟨hfirst, hsuffix⟩ := peel_annotated hpeel
    rw [hrest] at ih
    rcases List.mem_cons.1 h with rfl | h
    · exact hfirst
    · exact (ih h).of_suffix hsuffix
  | case2 header rest hpeel ih => exact (ih h).of_suffix (suffix_of_peel_ignored hpeel)
  | case3 header rest hpeel => cases h

/-- The annotations of all types that are found in a text stand there. -/
theorem standsIn_of_mem_members {packageName : String} {type : DeclaredType} {a : AnnotationUse}
    (ha : a ∈ type.annotations) {following : List Char} {text : List Lexeme} {around : List String}
    (h : type ∈ Member.listTypes packageName around (members following text)) :
    a.StandsIn text := by
  obtain ⟨member, hmember, htype⟩ := Member.mem_listTypes_iff.1 h
  refine forall_mem_members (P := fun text member ↦ ∀ around,
    ∀ type ∈ member.types packageName around, ∀ a ∈ type.annotations, a.StandsIn text)
    ?_ ?_ ?_ member hmember around type htype a ha
  · intro _ _ _ _ _ _ m _ _ around type htype
    rw [Member.types] at htype
    cases htype
  · intro header _ body after annotations name inner hpeel _ hinner around type htype a ha
    rw [Member.types] at htype
    rcases List.mem_cons.1 htype with rfl | htype
    · have hheader : a ∈ (peelHeader header).1 := by
        rw [hpeel]
        exact ha
      exact (standsIn_of_mem_peelHeader hheader).append_right rfl (by decide) _
    · obtain ⟨member, hmember, htype⟩ := Member.mem_listTypes_iff.1 htype
      have hbody := (hinner member hmember _ type htype a ha).append_right
        (l := .char '\x7d') rfl (by decide) after
      exact (hbody.append_left [.char '\x7b']).append_left header
  · intro before _ _ hafter around type htype a ha
    exact (hafter around type htype a ha).append_left before

/-! ## Facts about types -/

section Facts

variable {packageName : String} {imports : List String} {fact : Fact}

theorem exists_of_mem_typeFacts {controller : String} {annotations : List AnnotationUse}
    (h : fact ∈ typeFacts packageName imports controller annotations) :
    ∃ a ∈ annotations, a.name = fact.annotationName := by
  obtain ⟨a, ha, rfl⟩ := List.mem_map.1 h
  refine ⟨a, (List.mem_filter.1 ha).1, ?_⟩
  dsimp only
  split <;> rfl

theorem methodKey_ne_none_of_mem_methodFacts {controller : String} {m : Java.Method}
    (h : fact ∈ methodFacts controller m) : fact.methodKey ≠ none := by
  rcases mem_methodFacts_iff.1 h with ⟨a, -, rfl⟩ | ⟨p, -, a, -, rfl⟩
  · simp only [routeFact]
    split <;> exact Option.some_ne_none _
  · exact Option.some_ne_none _

mutual

theorem exists_annotation_of_mem_memberFacts {outer : String} {around : List String}
    {member : Member} (h : fact ∈ memberFacts packageName imports outer member)
    (hkey : fact.methodKey = none) :
    ∃ type ∈ member.types packageName around, ∃ a ∈ type.annotations,
      a.name = fact.annotationName := by
  cases member with
  | method m =>
    rw [memberFacts] at h
    exact absurd hkey (methodKey_ne_none_of_mem_methodFacts h)
  | type annotations name members =>
    rw [memberFacts, List.mem_append] at h
    rw [Member.types]
    rcases h with h | h
    · exact ⟨_, List.mem_cons_self, exists_of_mem_typeFacts h⟩
    · obtain ⟨type, htype, ha⟩ := exists_annotation_of_mem_membersFacts h hkey
      exact ⟨type, List.mem_cons_of_mem _ htype, ha⟩

/-- A fact that is not about a method reports an annotation of a type. -/
theorem exists_annotation_of_mem_membersFacts {outer : String} {around : List String}
    {members : List Member} (h : fact ∈ membersFacts packageName imports outer members)
    (hkey : fact.methodKey = none) :
    ∃ type ∈ Member.listTypes packageName around members, ∃ a ∈ type.annotations,
      a.name = fact.annotationName := by
  cases members with
  | nil =>
    rw [membersFacts] at h
    cases h
  | cons member members =>
    rw [membersFacts, List.mem_append] at h
    rw [Member.listTypes]
    rcases h with h | h
    · obtain ⟨type, htype, ha⟩ := exists_annotation_of_mem_memberFacts h hkey
      exact ⟨type, List.mem_append_left _ htype, ha⟩
    · obtain ⟨type, htype, ha⟩ := exists_annotation_of_mem_membersFacts h hkey
      exact ⟨type, List.mem_append_right _ htype, ha⟩

end

end Facts

/-- A controller annotation that is not seen in the text: a comment stands before its name. A name
that starts with a dot is not seen either, but is no name. -/
def hidesController (after : List Passage) : Bool :=
  let name := nameBehind (after.flatMap Passage.lexemes)
  endsInControllerName name && (startsWithComment after || name.head? == some '.')

/-- A controller annotation is hidden behind some at sign of the code. -/
def hasHiddenController : List Passage → Bool
  | [] => false
  | p :: rest => (p == .code '@' && hidesController rest) || hasHiddenController rest

theorem hidesController_eq_false {before after : List Passage}
    (h : hasHiddenController (before ++ .code '@' :: after) = false) :
    hidesController after = false := by
  induction before with
  | nil =>
    rw [List.nil_append, hasHiddenController, beq_self_eq_true, Bool.true_and,
      Bool.or_eq_false_iff] at h
    exact h.1
  | cons p before ih => exact ih (Bool.or_eq_false_iff.1 h).2

/-- An at sign outside of literals is one of the code. -/
theorem exists_passages_of_lexemes {ps : List Passage} {before after : List Lexeme}
    (h : ps.flatMap Passage.lexemes = before ++ .char '@' :: after) :
    ∃ before' after', ps = before' ++ .code '@' :: after' ∧
      after'.flatMap Passage.lexemes = after := by
  induction ps generalizing before with
  | nil => simp at h
  | cons p ps ih =>
    have hlater {l : Lexeme} (hp : p.lexemes = [l]) (hl : l ≠ .char '@') :
        ∃ before' after', p :: ps = before' ++ .code '@' :: after' ∧
          after'.flatMap Passage.lexemes = after := by
      rw [List.flatMap_cons, hp] at h
      cases before with
      | nil => exact absurd (List.cons.inj h).1 hl
      | cons m before =>
        obtain ⟨before', after', rfl, hafter⟩ := ih (List.cons.inj h).2
        exact ⟨p :: before', after', rfl, hafter⟩
    cases p with
    | code c =>
      by_cases hc : c = '@'
      · subst hc
        cases before with
        | nil => exact ⟨[], ps, rfl, (List.cons.inj h).2⟩
        | cons m before =>
          obtain ⟨before', after', rfl, hafter⟩ := ih (List.cons.inj h).2
          exact ⟨.code '@' :: before', after', rfl, hafter⟩
      · exact hlater rfl fun heq ↦ hc (Lexeme.char.inj heq)
    | literal text => exact hlater rfl nofun
    | lineComment text =>
      obtain ⟨before', after', rfl, hafter⟩ := ih h
      exact ⟨.lineComment text :: before', after', rfl, hafter⟩
    | blockComment text => exact hlater rfl (by decide)

/-- An annotation of a controller is seen in the text, unless it is hidden. -/
theorem mentionsController_of_standsIn {text : List Char} {a : AnnotationUse}
    (h : a.StandsIn (lex (stripComments text))) (hname : isControllerName a.name.toList = true)
    (hplain : hasHiddenController (passages text) = false) : mentionsController text = true := by
  obtain ⟨before, after, hlexemes, hat⟩ := h
  rw [lex_stripComments] at hlexemes
  obtain ⟨front, behind, hpassages, hafter⟩ := exists_passages_of_lexemes hlexemes
  have htext : text = front.flatMap Passage.chars ++ '@' :: behind.flatMap Passage.chars := by
    rw [← flatMap_chars_passages text, hpassages, List.flatMap_append, List.flatMap_cons]
    rfl
  have hbehind : passages (behind.flatMap Passage.chars) = behind := by
    rw [List.append_cons] at hpassages
    exact passages_flatMap_chars_of_append hpassages
  rw [hpassages] at hplain
  have hvisible := hidesController_eq_false hplain
  have hcontroller : endsInControllerName (nameBehind after) = true := by
    rw [endsInControllerName, ← hat, hname]
  rw [hidesController, hafter, hcontroller, Bool.true_and, Bool.or_eq_false_iff,
    beq_eq_false_iff_ne] at hvisible
  obtain ⟨hcomment, hdot⟩ := hvisible
  have hread := @nameBehind_lexemes_passages (behind.flatMap Passage.chars)
  rw [hbehind, hafter] at hread
  rw [htext]
  exact mentionsController_append
    (hread hcomment ▸ namesController_of_endsInControllerName hcontroller hdot)

end Java

open Java

/-- A fact about a controller is found only in texts that mention one, unless the annotation is
hidden. -/
theorem mentionsController_of_mem_scan {source : String} {fact : Fact} (h : fact ∈ scan source)
    (hkey : fact.methodKey = none)
    (hname : fact.annotationName = "RestController" ∨ fact.annotationName = "Controller")
    (hplain : hasHiddenController (passages source.toList) = false) :
    mentionsController source.toList = true := by
  obtain ⟨type, htype, a, ha, haname⟩ :=
    @exists_annotation_of_mem_membersFacts _ _ _ _ [] _ h hkey
  rw [Outline.ofText, Member.listTypes_filter] at htype
  refine mentionsController_of_standsIn (standsIn_of_mem_members ha htype) ?_ hplain
  rw [haname]
  rcases hname with hname | hname <;> rw [hname] <;> decide

/-- The file is looked at: it is the root itself, or it matches the pattern below it. -/
def FileSystem.IsListed (fs : FileSystem) (root : Path) (pattern : LooseText) (path : Path) : Prop :=
  (fs.isFile root = true ∧ path = root) ∨
    fs.isFile root = false ∧ ∃ parsed files, PathPattern.parse pattern = .ok parsed ∧
      fs.matchingFiles root parsed = .ok files ∧ path ∈ files

theorem mem_of_filterM {ε α : Type} {f : α → Except ε Bool} {xs found : List α} {x : α}
    (h : xs.filterM f = .ok found) (hx : x ∈ xs) (hkeep : f x = .ok true) : x ∈ found := by
  have hrun (known : List α) {out : List α} (hout : List.filterAuxM f xs known = .ok out) :
      (∀ y ∈ known, y ∈ out) ∧ (x ∈ xs → x ∈ out) := by
    clear h hx
    induction xs generalizing known with
    | nil =>
      rw [List.filterAuxM] at hout
      cases hout
      exact ⟨fun _ hy ↦ hy, nofun⟩
    | cons y ys ih =>
      rw [List.filterAuxM] at hout
      cases hy : f y with
      | error e => rw [hy] at hout; cases hout
      | ok kept =>
        rw [hy] at hout
        obtain ⟨hknown, hlater⟩ := ih _ hout
        refine ⟨fun z hz ↦ hknown z ?_, fun hmem ↦ ?_⟩
        · cases kept with
          | true => exact List.mem_cons_of_mem _ hz
          | false => exact hz
        · rcases List.mem_cons.1 hmem with rfl | hmem
          · rw [hkeep] at hy
            cases hy
            exact hknown x List.mem_cons_self
          · exact hlater hmem
  rw [List.filterM] at h
  cases hout : List.filterAuxM f xs [] with
  | error e => rw [hout] at h; cases h
  | ok out =>
    rw [hout] at h
    cases h
    exact List.mem_reverse.2 ((hrun [] hout).2 hx)

theorem mem_findSources {runtime : Runtime} {fs : FileSystem} {root path : Path}
    {pattern encoding : LooseText} {found : List Path} (hlisted : fs.IsListed root pattern path)
    (hcandidate : isCandidate runtime fs encoding path = .ok true)
    (hfound : findSources runtime fs root pattern encoding = .ok found) : path ∈ found := by
  unfold findSources at hfound
  by_cases hreach : fs.isBeyondReach root = true
  · rw [if_pos hreach] at hfound
    cases hfound
  · rw [if_neg hreach] at hfound
    rcases hlisted with ⟨hfile, rfl⟩ | ⟨hfile, parsed, files, hparsed, hfiles, hmem⟩
    · rw [if_pos hfile] at hfound
      exact mem_of_filterM hfound (List.mem_singleton_self _) hcandidate
    · rw [if_neg (Bool.eq_false_iff.1 hfile), hparsed] at hfound
      change ((fs.matchingFiles root parsed).mapError SearchError.place >>= _) = _ at hfound
      rw [hfiles] at hfound
      exact mem_of_filterM hfound hmem hcandidate

/-- A source in which the scanner finds a type with the annotation of a controller is recognised as
a controller source, if no comment stands between the at sign of such an annotation and its name.
So the search for sources, if it succeeds, finds every file with this text that it looks at. -/
theorem controller_sources_found {source : String} {fact : Fact} (h : fact ∈ scan source)
    (hkey : fact.methodKey = none)
    (hname : fact.annotationName = "RestController" ∨ fact.annotationName = "Controller")
    (hplain : hasHiddenController (passages source.toList) = false) :
    mentionsController source.toList = true ∧
      ∀ (runtime : Runtime) (fs : FileSystem) (root path : Path) (pattern encoding : LooseText)
        (found : List Path), fs.IsListed root pattern path →
          fs.readText runtime path encoding = .ok source.toList →
            findSources runtime fs root pattern encoding = .ok found → path ∈ found := by
  have hmentions := mentionsController_of_mem_scan h hkey hname hplain
  refine ⟨hmentions, fun runtime fs root path pattern encoding found hlisted hread hfound ↦ ?_⟩
  have hcandidate : isCandidate runtime fs encoding path = .ok true := by
    rw [isCandidate, hread]
    exact congrArg Except.ok hmentions
  exact mem_findSources hlisted hcandidate hfound

/-- A qualified annotation with comments around it. -/
theorem controller_sources_found_qualified :
    let source := "package p; /* @ */ @ org.x.RestController/* c */(\"a\") class A \x7b \x7d"
    mentionsController source.toList = true := by
  intro source
  have hscanned : ∃ fact ∈ scan source, fact.methodKey = none ∧
      fact.annotationName = "RestController" := by
    decide +kernel
  have hplain : hasHiddenController (passages source.toList) = false := by
    decide +kernel
  obtain ⟨fact, hfact, hkey, hname⟩ := hscanned
  exact (controller_sources_found hfact hkey (.inl hname) hplain).1

/-- A comment between the at sign and the name hides a controller from the search. -/
theorem controller_hidden_by_comment :
    let source := "@/* the API */RestController class A \x7b \x7d"
    (∃ fact ∈ scan source, fact.methodKey = none ∧ fact.kind = .controller ∧
        fact.annotationName = "RestController") ∧
      mentionsController source.toList = false := by
  decide +kernel

end EndpointStubs
