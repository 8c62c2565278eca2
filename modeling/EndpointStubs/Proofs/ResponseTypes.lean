import EndpointStubs.Model.Fold
import EndpointStubs.Proofs.EntityNames
import EndpointStubs.Proofs.JoinedTexts

/-!
# The types of responses

The return types of the language, and what is taken of them for the parameter of
a response. Void types are told by their exact text, and so is a response
entity. So blanks in their names hide them, and what is taken is right if no
name is hidden that matters, and the argument of an entity is not a wildcard
with a bound.
-/

namespace EndpointStubs

open Java Java.Written

namespace Java.Written

inductive ReturnType where
  | void
  | value (type : JavaType)

/-- The tokens that `void` and its class are written with. -/
def voidTokens : List (List TypeToken) :=
  [[keywordToken "void"], [keywordToken "Void"],
    [keywordToken "java", .mark '.', keywordToken "lang", .mark '.', keywordToken "Void"]]

namespace ReturnType

def tokens : ReturnType → List TypeToken
  | void => [keywordToken "void"]
  | value type => type.tokens

/-- The type is a response entity, with type arguments or without. -/
def IsEntity : ReturnType → Prop
  | value (.reference (.name names)) => names.last.text = entityName
  | value (.reference (.generic names _ _)) => names.last.text = entityName
  | _ => False

/-- The name of the entity type, and its type argument. -/
def entityArgument? : ReturnType → Option (TypeNames × TypeArgument)
  | value (.reference (.generic names (.last argument) .nil)) =>
    if names.last.text = entityName then some (names, argument) else none
  | _ => none

/-- A response entity has one type argument at most, and no member types. -/
def HasLegalEntity (returnType : ReturnType) : Prop :=
  ∀ names arguments members, returnType = value (.reference (.generic names arguments members)) →
    names.last.text = entityName → ∃ argument, arguments = .last argument ∧ members = .nil

/-- The response has no body: the type is void, alone or in a response entity. -/
def HasNoBody (returnType : ReturnType) : Prop :=
  returnType.tokens ∈ voidTokens ∨
    ∃ names argument, returnType.entityArgument? = some (names, argument) ∧
      argument.tokens ∈ voidTokens

/-- What the parameter for the response shall be: there is none exactly if the response has no
body, and otherwise it has a type of the language, which is the type argument of a response entity
if this is a type, and the declared type if that is no response entity. -/
structure HasResponse (returnType : ReturnType) (written : List Char) (response : Option String) :
    Prop where
  body : response = none ↔ returnType.HasNoBody
  legal : ∀ text ∈ response, ∃ type : JavaType, type.IsSpelledAs text
  argument : ∀ names type, returnType.entityArgument? = some (names, .exact type) →
    ∀ text ∈ response, (JavaType.reference type).IsSpelledAs text
  declared : ¬returnType.IsEntity → ∀ text ∈ response, text = .ofList (Text.compact written)

/-- The names that a return type is recognised by are written without blanks, if what is taken for
it depends on that, and a bounded wildcard is not recognised as the argument of a response
entity. -/
def IsRecognised (returnType : ReturnType) (pieces : List (Gap × TypeToken)) : Prop :=
  match returnType.entityArgument? with
  | none => returnType.tokens ∈ voidTokens → IsTight pieces
  | some (names, .exact type) =>
    IsTight (pieces.take (names.tokens.length + 1)) ∧
      (type.tokens ∈ voidTokens → IsTight (pieces.drop (names.tokens.length + 1)).dropLast)
  | some (_, .wildcard) => True
  | some (names, .extending _) | some (names, .superOf _) =>
    ¬IsTight (pieces.take (names.tokens.length + 1))

variable {returnType : ReturnType}

theorem isProper_tokens (returnType : ReturnType) : ∀ t ∈ returnType.tokens, t.IsProper := by
  cases returnType with
  | void => decide
  | value type => exact type.isProper_tokens

theorem readable (returnType : ReturnType) : TypeToken.Readable false returnType.tokens := by
  cases returnType with
  | void => decide
  | value type => exact type.readable

end ReturnType

/-- The type that is taken where the argument of an entity is not known. -/
def JavaType.object : JavaType :=
  .reference (.name ⟨[], ⟨⟨"Object".toList, by decide, List.all_eq_true.1 rfl⟩, by decide +kernel,
    rfl⟩⟩)

theorem JavaType.isSpelledAs_object : JavaType.object.IsSpelledAs "Object" :=
  ⟨[(⟨[], isBlank_nil⟩, .word "Object".toList)],
    ⟨by rw [object, tokens, ReferenceType.tokens]; rfl, .singleton _⟩, by decide⟩

theorem isProper_voidTokens {ts : List TypeToken} (h : ts ∈ voidTokens) :
    (∀ t ∈ ts, t.IsProper) ∧ TypeToken.Readable false ts := by
  have hall : ∀ ts ∈ voidTokens, (∀ t ∈ ts, t.IsProper) ∧ TypeToken.Readable false ts := by decide
  exact hall ts h

end Java.Written

theorem isVoidType_iff {text : List Char} :
    isVoidType text = true ↔ ∃ ts ∈ voidTokens, text = TypeToken.text ts := by
  have htexts : voidTokens.map TypeToken.text =
      ["void".toList, "Void".toList, "java.lang.Void".toList] := by
    decide
  calc
    _ ↔ text ∈ voidTokens.map TypeToken.text := by
      rw [htexts, isVoidType, Bool.or_eq_true, Bool.or_eq_true, decide_eq_true_eq,
        decide_eq_true_eq, decide_eq_true_eq, or_assoc, List.mem_cons, List.mem_cons,
        List.mem_singleton]
    _ ↔ _ := by
      rw [List.mem_map]
      exact exists_congr fun ts ↦ and_congr_right fun _ ↦ eq_comm

/-- A type is recognised as void if it is, and no blanks are in it. -/
theorem isVoidType_spell_iff {pieces : List (Gap × TypeToken)}
    (hproper : ∀ x ∈ pieces, x.2.IsProper)
    (hreadable : TypeToken.Readable false (pieces.map Prod.snd)) :
    isVoidType (spell pieces) = true ↔
      pieces.map Prod.snd ∈ voidTokens ∧ ∀ x ∈ pieces, x.1.chars = [] := by
  rw [isVoidType_iff]
  constructor
  · rintro ⟨ts, hts, htext⟩
    obtain ⟨htsProper, htsReadable⟩ := isProper_voidTokens hts
    obtain ⟨rfl, hgaps⟩ := (spell_eq_text_iff hproper htsProper hreadable htsReadable).1 htext
    exact ⟨hts, hgaps⟩
  · rintro ⟨hts, hgaps⟩
    exact ⟨_, hts, spell_eq_text hgaps⟩

/-! ## What is taken for a type -/

/-- Without parentheses nothing is dropped from a type. -/
theorem cleanType_eq_self {text : String} (h : '(' ∉ text.toList) : cleanType text = text := by
  have hgroup : ∀ line ∈ Text.splitAt '\n' text.toList, dropGroup line = line := by
    intro line hline
    have hdrop : line.dropWhile (· != '(') = [] := by
      refine List.dropWhile_eq_nil_iff.2 fun c hc ↦ ?_
      rw [bne_iff_ne]
      rintro rfl
      exact h (mem_of_mem_splitAt hline _ hc).1
    rw [dropGroup, hdrop]
  rw [cleanType, List.map_congr_left hgroup, List.map_id', Text.intercalate_splitAt,
    String.ofList_toList]

/-- The type of the parameter for the response to a method with the return type as it is written. -/
def writtenResponse (written : List Char) : Option String :=
  responseArgumentType (some (cleanType (.ofList (Text.compact written))))

/-- What is taken for the argument of an entity, without the blanks around it. -/
def argumentResponse (text : List Char) : Option String :=
  if isVoidType text then none
  else if text.isEmpty ∨ text = ['?'] then some "Object" else some (.ofList text)

section Spelled

variable {pieces : List (Gap × TypeToken)} (hproper : ∀ x ∈ pieces, x.2.IsProper)

include hproper

theorem not_mem_spell {c : Char} (hword : Text.isWord c = false) (hmark : c ∉ typeMarks)
    (hblank : Text.isBlank c = false) : c ∉ spell pieces := by
  intro hc
  obtain ⟨⟨gap, t⟩, hx, hc⟩ := List.mem_flatMap.1 hc
  rcases List.mem_append.1 hc with hc | hc
  · rw [gap.blank c hc] at hblank
    cases hblank
  · have ht := hproper _ hx
    cases t with
    | word chars =>
      rw [ht.2 c hc] at hword
      cases hword
    | mark d =>
      obtain rfl := List.mem_singleton.1 hc
      exact hmark ht

theorem writtenResponse_spell : writtenResponse (spell pieces) =
    responseArgumentType (some (.ofList (spell (compactPieces pieces)))) := by
  have hparen : '(' ∉ spell (compactPieces pieces) :=
    not_mem_spell (isProper_compactPieces hproper) (by decide) (by decide) (by decide)
  rw [writtenResponse, compact_spell hproper, cleanType_eq_self (by rwa [String.toList_ofList])]

theorem trim_spell_compactPieces :
    Text.trim (spell (compactPieces pieces)) = spell (compactPieces pieces) := by
  rw [trim_spell (isProper_compactPieces hproper), trimPieces_compactPieces]

theorem writtenResponse_of_void (hvoid : isVoidType (spell (compactPieces pieces)) = true) :
    writtenResponse (spell pieces) = none := by
  rw [writtenResponse_spell hproper, responseArgumentType]
  dsimp only
  rw [String.toList_ofList, trim_spell_compactPieces hproper, if_pos hvoid]

section Body

variable (hvoid : isVoidType (spell (compactPieces pieces)) = false)
include hvoid

theorem writtenResponse_of_not_entity
    (hentity : responseEntityArgument? (spell (compactPieces pieces)) = none) :
    writtenResponse (spell pieces) = some (.ofList (Text.compact (spell pieces))) := by
  rw [writtenResponse_spell hproper, responseArgumentType]
  dsimp only
  rw [String.toList_ofList, trim_spell_compactPieces hproper, if_neg (Bool.eq_false_iff.1 hvoid),
    hentity, compact_spell hproper]

theorem writtenResponse_of_entity {argument : List Char}
    (hentity : responseEntityArgument? (spell (compactPieces pieces)) = some argument) :
    writtenResponse (spell pieces) = argumentResponse (Text.trim argument) := by
  rw [writtenResponse_spell hproper, responseArgumentType]
  dsimp only
  rw [String.toList_ofList, trim_spell_compactPieces hproper, if_neg (Bool.eq_false_iff.1 hvoid),
    hentity]
  rfl

end Body

end Spelled

theorem spell_eq_chars {pieces : List (Gap × TypeToken)} {t : TypeToken}
    (htokens : pieces.map Prod.snd = [t]) (hhead : ∀ x ∈ pieces.head?, x.1.chars = []) :
    spell pieces = t.chars := by
  obtain ⟨x, rfl, rfl⟩ := List.map_eq_singleton_iff.1 htokens
  rw [spell, List.flatMap_singleton, hhead x rfl, List.nil_append]

theorem getLast?_spell {pieces : List (Gap × TypeToken)} {ts : List TypeToken} {c : Char}
    (htokens : pieces.map Prod.snd = ts ++ [.mark c]) : (spell pieces).getLast? = some c := by
  obtain ⟨front, back, rfl, -, hback⟩ := List.map_eq_append_iff.1 htokens
  obtain ⟨x, rfl, hx⟩ := List.map_eq_singleton_iff.1 hback
  rw [spell_append, spell, spell, List.flatMap_singleton, hx, ← List.append_assoc]
  exact List.getLast?_concat

namespace Java.Written.ReturnType

variable {returnType : ReturnType} {pieces : List (Gap × TypeToken)}

section NoArgument

variable (h : IsSpelling returnType.tokens pieces) (hhead : ∀ x ∈ pieces.head?, x.1.chars = [])
include h hhead

theorem responseEntityArgument?_of_tokens_eq {chars : List Char}
    (htokens : returnType.tokens = [.word chars]) (hne : String.ofList chars ≠ entityName) :
    responseEntityArgument? (spell pieces) = none := by
  have hproper := returnType.isProper_tokens
  rw [htokens, List.forall_mem_singleton] at hproper
  rw [spell_eq_chars (h.tokens.trans htokens) hhead]
  exact responseEntityArgument?_word hproper hne

/-- A type that is no entity with a type argument is not taken for one. -/
theorem responseEntityArgument?_of_no_argument (hlegal : returnType.HasLegalEntity)
    (hnone : returnType.entityArgument? = none) :
    responseEntityArgument? (spell pieces) = none ∨
      returnType.IsEntity ∧ responseEntityArgument? (spell pieces) = some [] := by
  have hbracket (ts : List TypeToken) (htokens : returnType.tokens = ts ++ [.mark ']']) :
      responseEntityArgument? (spell pieces) = none :=
    responseEntityArgument?_of_getLast (getLast?_spell (h.tokens.trans htokens)) (by decide)
      (by decide)
  cases returnType with
  | void => exact .inl (responseEntityArgument?_of_tokens_eq h hhead rfl (by decide))
  | value type =>
    cases type with
    | primitive keyword known =>
      have hne : ∀ keyword ∈ primitiveTypes, String.ofList keyword.toList ≠ entityName := by decide
      exact .inl (responseEntityArgument?_of_tokens_eq h hhead rfl (hne keyword known))
    | reference type =>
      cases type with
      | name names =>
        have htokens : pieces.map Prod.snd = names.tokens := by
          rw [h.tokens, tokens, JavaType.tokens, ReferenceType.tokens]
        exact responseEntityArgument?_spell_name htokens
      | generic names arguments members =>
        left
        by_cases hname : names.last.text = entityName
        · obtain ⟨argument, rfl, rfl⟩ := hlegal names arguments members rfl hname
          rw [entityArgument?, if_pos hname] at hnone
          cases hnone
        · have htokens := h.tokens
          rw [tokens, JavaType.tokens, ReferenceType.tokens] at htokens
          obtain ⟨front, rest, rfl, hfront, hrest⟩ := List.map_eq_append_iff.1 htokens
          obtain ⟨⟨gap, t⟩, behind, rfl, rfl, -⟩ := List.map_eq_cons_iff.1 hrest
          refine responseEntityArgument?_spell_of_ne hname hfront ?_
          rw [spell, List.flatMap_cons, List.append_assoc]
          exact gap.head_eq_false (fun _ ↦ isWordOrDot_eq_false_of_isBlank) '<' (by decide) _
      | primitiveArray keyword known =>
        exact .inl (hbracket [keywordToken keyword, .mark '['] (by
          rw [tokens, JavaType.tokens, ReferenceType.tokens]
          rfl))
      | array element =>
        exact .inl (hbracket (element.tokens ++ [.mark '[']) (by
          rw [tokens, JavaType.tokens, ReferenceType.tokens, List.append_assoc]
          rfl))

end NoArgument

section Response

variable (h : IsSpelling returnType.tokens pieces)
include h

/-- A return type is recognised as void if it is and is written without blanks. -/
theorem isVoidType_compactPieces_iff :
    isVoidType (spell (compactPieces pieces)) = true ↔
      returnType.tokens ∈ voidTokens ∧ IsTight pieces := by
  have hproper := isProper_compactPieces (h.isProper returnType.isProper_tokens)
  have htokens := h.compact.tokens
  rw [isVoidType_spell_iff hproper (by rw [htokens]; exact returnType.readable), htokens,
    ← trimPieces_compactPieces, forall_trimPieces_iff, isTight_compactPieces]

/-- The declared type is a type of the language unless it is void. -/
theorem exists_isSpelledAs (hvoid : returnType.tokens ∉ voidTokens) :
    ∃ type : JavaType, type.IsSpelledAs (.ofList (Text.compact (spell pieces))) := by
  cases returnType with
  | void => exact absurd (by decide) hvoid
  | value type => exact ⟨type, type.isSpelledAs_compact h⟩

/-- Without a type argument of an entity, a type that is not taken for void is the response as it is
written, but for an entity whose argument is read as empty. -/
theorem exists_writtenResponse_of_no_argument (hlegal : returnType.HasLegalEntity)
    (hnone : returnType.entityArgument? = none)
    (hvoid : isVoidType (spell (compactPieces pieces)) = false) :
    ∃ text, writtenResponse (spell pieces) = some text ∧
      (text = .ofList (Text.compact (spell pieces)) ∨ returnType.IsEntity ∧ text = "Object") := by
  have hproper := h.isProper returnType.isProper_tokens
  rcases responseEntityArgument?_of_no_argument h.compact gap_head_trimPieces hlegal hnone with
    hentity | ⟨hentity, hargument⟩
  · exact ⟨_, writtenResponse_of_not_entity hproper hvoid hentity, .inl rfl⟩
  · exact ⟨_, writtenResponse_of_entity hproper hvoid hargument, .inr ⟨hentity, rfl⟩⟩

/-- Without a type argument of an entity, the response is right if the name of a void type is
written without blanks. -/
theorem hasResponse_iff_of_no_argument (hlegal : returnType.HasLegalEntity)
    (hnone : returnType.entityArgument? = none) :
    returnType.HasResponse (spell pieces) (writtenResponse (spell pieces)) ↔
      (returnType.tokens ∈ voidTokens → IsTight pieces) := by
  have hproper := h.isProper returnType.isProper_tokens
  have hbody : returnType.HasNoBody ↔ returnType.tokens ∈ voidTokens := by
    simp [HasNoBody, hnone]
  have hargument (names : TypeNames) (type : ReferenceType) :
      returnType.entityArgument? ≠ some (names, .exact type) := by
    rw [hnone]
    nofun
  cases hvoid : isVoidType (spell (compactPieces pieces)) with
  | true =>
    obtain ⟨hmem, htight⟩ := (isVoidType_compactPieces_iff h).1 hvoid
    rw [writtenResponse_of_void hproper hvoid]
    exact iff_of_true ⟨iff_of_true rfl (hbody.2 hmem), nofun, fun _ _ _ ↦ nofun, fun _ ↦ nofun⟩
      fun _ ↦ htight
  | false =>
    have hnot : ¬(returnType.tokens ∈ voidTokens ∧ IsTight pieces) := fun hboth ↦ by
      rw [(isVoidType_compactPieces_iff h).2 hboth] at hvoid
      cases hvoid
    obtain ⟨text, hwritten, htext⟩ :=
      exists_writtenResponse_of_no_argument h hlegal hnone hvoid
    rw [hwritten]
    constructor
    · intro hright hmem
      cases hright.body.2 (hbody.2 hmem)
    · intro hrecognised
      have hmem : returnType.tokens ∉ voidTokens := fun hmem ↦ hnot ⟨hmem, hrecognised hmem⟩
      refine ⟨iff_of_false nofun (mt hbody.1 hmem), ?_, fun names type hsome ↦ ?_, ?_⟩
      · rintro _ ⟨⟩
        rcases htext with rfl | ⟨-, rfl⟩
        · exact exists_isSpelledAs h hmem
        · exact ⟨_, JavaType.isSpelledAs_object⟩
      · exact absurd hsome (hargument names type)
      · rintro hentity _ ⟨⟩
        exact htext.resolve_right fun hobject ↦ hentity hobject.1

end Response

section Argument

variable {names : TypeNames} {argument : TypeArgument}

theorem tokens_of_entityArgument?
    (hsome : returnType.entityArgument? = some (names, argument)) :
    returnType.IsEntity ∧ names.last.text = entityName ∧
      returnType.tokens = names.tokens ++ .mark '<' :: (argument.tokens ++ [.mark '>']) := by
  unfold entityArgument? at hsome
  split at hsome
  · split at hsome
    · rename_i hname
      cases hsome
      refine ⟨hname, hname, ?_⟩
      rw [tokens, JavaType.tokens, ReferenceType.tokens, TypeArguments.tokens, MemberTypes.tokens,
        List.append_nil]
    · cases hsome
  · cases hsome

theorem not_mem_voidTokens {ts us : List TypeToken} : ts ++ .mark '<' :: us ∉ voidTokens := by
  have hall : ∀ vs ∈ voidTokens, TypeToken.mark '<' ∉ vs := by decide
  exact fun hmem ↦ hall _ hmem (List.mem_append_right _ List.mem_cons_self)

/-- The parts of an entity with a type argument: the name and the opening bracket, the argument, and
the closing bracket. -/
theorem exists_parts {front : List TypeToken} {argumentTokens : List TypeToken}
    (htokens : pieces.map Prod.snd = front ++ .mark '<' :: (argumentTokens ++ [.mark '>'])) :
    ∃ opening inside gap, pieces = opening ++ (inside ++ [(gap, .mark '>')]) ∧
      opening.map Prod.snd = front ++ [.mark '<'] ∧ inside.map Prod.snd = argumentTokens ∧
      pieces.take (front.length + 1) = opening ∧
      (pieces.drop (front.length + 1)).dropLast = inside := by
  rw [List.append_cons] at htokens
  obtain ⟨opening, behind, rfl, hopening, hbehind⟩ := List.map_eq_append_iff.1 htokens
  obtain ⟨inside, closing, rfl, hinside, hclosing⟩ := List.map_eq_append_iff.1 hbehind
  obtain ⟨⟨gap, t⟩, rfl, rfl⟩ := List.map_eq_singleton_iff.1 hclosing
  have hlength : opening.length = front.length + 1 := by
    rw [← List.length_map (f := Prod.snd), hopening, List.length_append, List.length_singleton]
  refine ⟨opening, inside, gap, rfl, hopening, hinside, ?_, ?_⟩
  · rw [← hlength, List.take_left]
  · rw [← hlength, List.drop_left, List.dropLast_concat]

section Parts

variable {opening inside : List (Gap × TypeToken)} {gap : Gap}
  (hopening : opening.map Prod.snd = names.tokens ++ [.mark '<'])
include hopening

theorem responseEntityArgument?_of_tight (hname : names.last.text = entityName)
    (htight : ∀ x ∈ opening, x.1.chars = [])
    (hline : '\n' ∉ spell (opening ++ (inside ++ [(gap, .mark '>')]))) :
    responseEntityArgument? (spell (opening ++ (inside ++ [(gap, .mark '>')]))) =
      some (spell inside ++ gap.chars) := by
  have hspell : spell (opening ++ (inside ++ [(gap, .mark '>')])) =
      names.qualified.chars ++ '<' :: (spell inside ++ gap.chars ++ ['>']) := by
    have htext := spell_eq_text htight
    rw [hopening, TypeToken.text, List.flatMap_append, ← TypeToken.text, names.text_tokens] at htext
    rw [spell_append, spell_append, htext]
    simp [spell, TypeToken.chars]
  rw [hspell] at hline ⊢
  exact responseEntityArgument?_generic hname fun hmem ↦ hline (by simp [List.mem_append.1 hmem])

theorem responseEntityArgument?_of_opening_not_tight (htight : ¬∀ x ∈ opening, x.1.chars = []) :
    responseEntityArgument? (spell (opening ++ (inside ++ [(gap, .mark '>')]))) = none := by
  refine responseEntityArgument?_of_not_tight (fun x hx ↦ ?_) htight
  apply names.isWordOrDot_tokens
  have hdropLast := List.mem_map_of_mem (f := Prod.snd) hx
  rwa [List.map_dropLast, hopening, List.dropLast_concat] at hdropLast

end Parts

/-- An entity is taken for one if no blanks stand before its opening bracket. -/
theorem writtenResponse_of_argument (h : IsSpelling returnType.tokens pieces)
    (hsome : returnType.entityArgument? = some (names, argument)) :
    (¬IsTight (pieces.take (names.tokens.length + 1)) →
        writtenResponse (spell pieces) = some (.ofList (Text.compact (spell pieces)))) ∧
      (IsTight (pieces.take (names.tokens.length + 1)) → ∃ inside,
        IsSpelling argument.tokens inside ∧
          (IsTight inside ↔ IsTight (pieces.drop (names.tokens.length + 1)).dropLast) ∧
          writtenResponse (spell pieces) = argumentResponse (spell (trimPieces inside))) := by
  obtain ⟨-, hname, htokens⟩ := tokens_of_entityArgument? hsome
  have hproper := h.isProper returnType.isProper_tokens
  have hvoid : isVoidType (spell (compactPieces pieces)) = false := by
    rw [Bool.eq_false_iff, ne_eq, isVoidType_compactPieces_iff h, htokens]
    exact fun hboth ↦ not_mem_voidTokens hboth.1
  obtain ⟨opening, inside, gap, hcompact, hopening, hinside, htake, hdrop⟩ :=
    exists_parts (h.compact.tokens.trans htokens)
  have hhead : ∀ x ∈ opening.head?, x.1.chars = [] := by
    have hne : opening ≠ [] := by
      rintro rfl
      exact absurd hopening.symm (List.append_ne_nil_of_right_ne_nil _ (List.cons_ne_nil _ _))
    have hcompactHead : ∀ x ∈ (compactPieces pieces).head?, x.1.chars = [] := gap_head_trimPieces
    rwa [hcompact, List.head?_append_of_ne_nil _ hne] at hcompactHead
  rw [← isTight_take_compactPieces, htake, ← isTight_drop_compactPieces, hdrop,
    ← forall_iff_isTight hhead]
  refine ⟨fun htight ↦ ?_, fun htight ↦ ⟨inside, ⟨hinside, ?_⟩, Iff.rfl, ?_⟩⟩
  · refine writtenResponse_of_not_entity hproper hvoid ?_
    rw [hcompact]
    exact responseEntityArgument?_of_opening_not_tight hopening htight
  · have hchain := h.compact.apart
    rw [hcompact] at hchain
    exact hchain.right_of_append.left_of_append
  · have hentity := responseEntityArgument?_of_tight hopening hname htight
      (hcompact ▸ not_mem_newline_spell_compactPieces hproper)
    have hinsideProper : ∀ x ∈ inside, x.2.IsProper := fun x hx ↦
      isProper_compactPieces hproper x (hcompact ▸
        List.mem_append_right _ (List.mem_append_left _ hx))
    rw [writtenResponse_of_entity hproper hvoid (hcompact ▸ hentity),
      trim_spell_append hinsideProper]

theorem eq_wildcard_of_tokens (h : argument.tokens = [] ∨ argument.tokens = [.mark '?']) :
    argument = .wildcard := by
  cases argument with
  | wildcard => rfl
  | exact type =>
    obtain ⟨chars, ts, htokens⟩ := type.exists_tokens_cons
    rw [TypeArgument.tokens, htokens] at h
    exact h.elim nofun nofun
  | extending bound =>
    rw [TypeArgument.tokens] at h
    exact h.elim nofun nofun
  | superOf bound =>
    rw [TypeArgument.tokens] at h
    exact h.elim nofun nofun

section Inside

variable {inside : List (Gap × TypeToken)} (hinside : IsSpelling argument.tokens inside)
include hinside

theorem isVoidType_inside_iff : isVoidType (spell (trimPieces inside)) = true ↔
    argument.tokens ∈ voidTokens ∧ IsTight inside := by
  have htokens := hinside.trim.tokens
  have hproper := hinside.trim.isProper argument.isProper_tokens
  rw [isVoidType_spell_iff hproper (by rw [htokens]; exact argument.readable), htokens,
    forall_trimPieces_iff]

theorem argumentResponse_wildcard (hargument : argument = .wildcard) :
    argumentResponse (spell (trimPieces inside)) = some "Object" := by
  have htokens := hinside.trim.tokens
  rw [hargument, TypeArgument.tokens] at htokens
  rw [spell_eq_chars htokens gap_head_trimPieces]
  decide

/-- Any other argument is taken as it is. -/
theorem argumentResponse_of_ne_wildcard (hargument : argument ≠ .wildcard)
    (hvoid : isVoidType (spell (trimPieces inside)) = false) :
    argumentResponse (spell (trimPieces inside)) = some (.ofList (Text.trim (spell inside))) := by
  have hproper := hinside.trim.isProper argument.isProper_tokens
  have htokens := hinside.trim.tokens
  have htext {ts : List TypeToken} (hts : (∀ t ∈ ts, t.IsProper) ∧ TypeToken.Readable false ts)
      (heq : spell (trimPieces inside) = TypeToken.text ts) : argument.tokens = ts := by
    rw [spell_eq_text_iff hproper hts.1 (by rw [htokens]; exact argument.readable) hts.2, htokens]
      at heq
    exact heq.1
  have hnot : ¬((spell (trimPieces inside)).isEmpty ∨ spell (trimPieces inside) = ['?']) := by
    rintro (hempty | hmark)
    · exact hargument (eq_wildcard_of_tokens (.inl
        (htext (by decide) (List.isEmpty_iff.1 hempty))))
    · exact hargument (eq_wildcard_of_tokens (.inr (htext (by decide) hmark)))
  rw [argumentResponse, if_neg (Bool.eq_false_iff.1 hvoid), if_neg hnot,
    trim_spell (hinside.isProper argument.isProper_tokens)]

end Inside

section Recognised

variable (hsome : returnType.entityArgument? = some (names, argument))
include hsome

theorem hasNoBody_iff_of_argument : returnType.HasNoBody ↔ argument.tokens ∈ voidTokens := by
  obtain ⟨-, -, htokens⟩ := tokens_of_entityArgument? hsome
  rw [HasNoBody, hsome, htokens, or_iff_right not_mem_voidTokens]
  constructor
  · rintro ⟨names, argument, ⟨⟩, hmem⟩
    exact hmem
  · exact fun hmem ↦ ⟨names, argument, rfl, hmem⟩

theorem hasResponse_some_iff {written : List Char} {text : String} :
    returnType.HasResponse written (some text) ↔ argument.tokens ∉ voidTokens ∧
      (∃ type : JavaType, type.IsSpelledAs text) ∧
      ∀ type, argument = .exact type → (JavaType.reference type).IsSpelledAs text := by
  have hbody := hasNoBody_iff_of_argument hsome
  constructor
  · intro hresponse
    refine ⟨fun hmem ↦ ?_, hresponse.legal text rfl, ?_⟩
    · cases hresponse.body.2 (hbody.2 hmem)
    · rintro type rfl
      exact hresponse.argument names type hsome text rfl
  · rintro ⟨hmem, hlegal, hexact⟩
    refine ⟨iff_of_false nofun (mt hbody.1 hmem), ?_, fun names' type hsome' ↦ ?_, fun hentity ↦ ?_⟩
    · rintro _ ⟨⟩
      exact hlegal
    · rintro _ ⟨⟩
      rw [hsome] at hsome'
      cases hsome'
      exact hexact type rfl
    · exact absurd (tokens_of_entityArgument? hsome).1 hentity

variable (h : IsSpelling returnType.tokens pieces)
include h

theorem exists_isSpelledAs_of_argument :
    ∃ type : JavaType, type.IsSpelledAs (.ofList (Text.compact (spell pieces))) := by
  refine exists_isSpelledAs h ?_
  rw [(tokens_of_entityArgument? hsome).2.2]
  exact not_mem_voidTokens

/-- An entity is not its own argument. -/
theorem not_isSpelledAs_argument {type : ReferenceType} (hargument : argument = .exact type) :
    ¬(JavaType.reference type).IsSpelledAs (.ofList (Text.compact (spell pieces))) := by
  obtain ⟨-, -, htokens⟩ := tokens_of_entityArgument? hsome
  have hcollapsed := h.collapse
  rw [Text.compact, collapseBlanks_spell (h.isProper returnType.isProper_tokens)]
  intro hspelled
  have hsame := JavaType.tokens_eq_of_isSpelledAs
    (hcollapsed.isProper returnType.isProper_tokens)
    (by rw [hcollapsed.tokens]; exact returnType.readable) hspelled
  have hlength := congrArg List.length hsame
  rw [hcollapsed.tokens, htokens, JavaType.tokens, hargument, TypeArgument.tokens] at hlength
  simp only [List.length_append, List.length_cons] at hlength
  omega

/-- A concrete type argument is taken if the name of the entity is recognised, and void if it is
recognised too. -/
theorem hasResponse_iff_of_exact {type : ReferenceType} (hargument : argument = .exact type) :
    returnType.HasResponse (spell pieces) (writtenResponse (spell pieces)) ↔
      IsTight (pieces.take (names.tokens.length + 1)) ∧
        (type.tokens ∈ voidTokens → IsTight (pieces.drop (names.tokens.length + 1)).dropLast) := by
  obtain ⟨hdeclared, hunwrapped⟩ := writtenResponse_of_argument h hsome
  have htokens : argument.tokens = type.tokens := by rw [hargument, TypeArgument.tokens]
  by_cases htight : IsTight (pieces.take (names.tokens.length + 1))
  · obtain ⟨inside, hinside, hinsideTight, hresponse⟩ := hunwrapped htight
    rw [and_iff_right htight, ← hinsideTight, hresponse, ← htokens]
    cases hvoid : isVoidType (spell (trimPieces inside)) with
    | true =>
      obtain ⟨hmem, hgaps⟩ := (isVoidType_inside_iff hinside).1 hvoid
      have hnone : argumentResponse (spell (trimPieces inside)) = none := if_pos hvoid
      rw [hnone]
      exact iff_of_true ⟨iff_of_true rfl ((hasNoBody_iff_of_argument hsome).2 hmem), nofun,
        fun _ _ _ ↦ nofun, fun _ ↦ nofun⟩ fun _ ↦ hgaps
    | false =>
      have hspelled : (JavaType.reference type).IsSpelledAs (.ofList (Text.trim (spell inside))) :=
        ⟨inside, by rw [JavaType.tokens, ← htokens]; exact hinside, rfl⟩
      rw [argumentResponse_of_ne_wildcard hinside (by rw [hargument]; nofun) hvoid,
        hasResponse_some_iff hsome]
      constructor
      · exact fun hright hmem ↦ absurd hmem hright.1
      · intro hrecognised
        refine ⟨fun hmem ↦ ?_, ⟨_, hspelled⟩, fun other hother ↦ ?_⟩
        · rw [(isVoidType_inside_iff hinside).2 ⟨hmem, hrecognised hmem⟩] at hvoid
          cases hvoid
        · rw [hargument] at hother
          cases hother
          exact hspelled
  · -- The declared type is taken, which is longer than its argument.
    rw [hdeclared htight, hasResponse_some_iff hsome]
    exact iff_of_false (fun hright ↦ not_isSpelledAs_argument hsome h hargument
      (hright.2.2 type hargument)) fun hrecognised ↦ htight hrecognised.1

theorem hasResponse_of_wildcard (hargument : argument = .wildcard) :
    returnType.HasResponse (spell pieces) (writtenResponse (spell pieces)) := by
  obtain ⟨hdeclared, hunwrapped⟩ := writtenResponse_of_argument h hsome
  have hmem : argument.tokens ∉ voidTokens := by
    rw [hargument, TypeArgument.tokens]
    decide
  have hexact {type : ReferenceType} : argument ≠ .exact type := by
    rw [hargument]
    nofun
  by_cases htight : IsTight (pieces.take (names.tokens.length + 1))
  · obtain ⟨inside, hinside, -, hresponse⟩ := hunwrapped htight
    rw [hresponse, argumentResponse_wildcard hinside hargument, hasResponse_some_iff hsome]
    exact ⟨hmem, ⟨_, JavaType.isSpelledAs_object⟩, fun type heq ↦ absurd heq hexact⟩
  · rw [hdeclared htight, hasResponse_some_iff hsome]
    exact ⟨hmem, exists_isSpelledAs_of_argument hsome h, fun type heq ↦ absurd heq hexact⟩

/-- A bounded wildcard is taken as it is, and is no type. -/
theorem hasResponse_iff_of_bounded {keyword : String} {bound : ReferenceType}
    (htokens : argument.tokens = .mark '?' :: keywordToken keyword :: bound.tokens)
    (hexact : ∀ type, argument ≠ .exact type) (hwildcard : argument ≠ .wildcard) :
    returnType.HasResponse (spell pieces) (writtenResponse (spell pieces)) ↔
      ¬IsTight (pieces.take (names.tokens.length + 1)) := by
  obtain ⟨hdeclared, hunwrapped⟩ := writtenResponse_of_argument h hsome
  have hmem : argument.tokens ∉ voidTokens := by
    have hall : ∀ ts ∈ voidTokens, ts.head? ≠ some (.mark '?') := by decide
    exact fun hmem ↦ hall _ hmem (by rw [htokens]; rfl)
  by_cases htight : IsTight (pieces.take (names.tokens.length + 1))
  · obtain ⟨inside, hinside, -, hresponse⟩ := hunwrapped htight
    have hvoid : isVoidType (spell (trimPieces inside)) = false := by
      rw [Bool.eq_false_iff, ne_eq, isVoidType_inside_iff hinside]
      exact fun hboth ↦ hmem hboth.1
    rw [hresponse, argumentResponse_of_ne_wildcard hinside hwildcard hvoid,
      hasResponse_some_iff hsome]
    refine iff_of_false (fun hright ↦ ?_) (fun hnot ↦ hnot htight)
    -- What is taken begins with the question mark, and no type does.
    obtain ⟨type, hspelled⟩ := hright.2.1
    have hsame := JavaType.tokens_eq_of_isSpelledAs (hinside.isProper argument.isProper_tokens)
      (by rw [hinside.tokens]; exact argument.readable) hspelled
    obtain ⟨chars, ts, hword⟩ := type.exists_tokens_cons
    rw [hword, hinside.tokens, htokens] at hsame
    cases hsame
  · rw [hdeclared htight, hasResponse_some_iff hsome]
    exact iff_of_true ⟨hmem, exists_isSpelledAs_of_argument hsome h, fun type heq ↦
      absurd heq (hexact type)⟩ htight

end Recognised

end Argument

/-- The type of the parameter for the response, for every return type and all blanks in it. -/
theorem hasResponse_iff (h : IsSpelling returnType.tokens pieces)
    (hlegal : returnType.HasLegalEntity) :
    returnType.HasResponse (spell pieces) (writtenResponse (spell pieces)) ↔
      returnType.IsRecognised pieces := by
  rw [IsRecognised]
  cases hsome : returnType.entityArgument? with
  | none => exact hasResponse_iff_of_no_argument h hlegal hsome
  | some entity =>
    obtain ⟨names, argument⟩ := entity
    cases argument with
    | exact type => exact hasResponse_iff_of_exact hsome h rfl
    | wildcard => exact iff_of_true (hasResponse_of_wildcard hsome h rfl) trivial
    | extending bound =>
      exact hasResponse_iff_of_bounded hsome h (by rw [TypeArgument.tokens]) nofun nofun
    | superOf bound =>
      exact hasResponse_iff_of_bounded hsome h (by rw [TypeArgument.tokens]) nofun nofun

end Java.Written.ReturnType

end EndpointStubs
