import EndpointStubs.Proofs.WrittenTypes
import Mathlib.Data.List.Chain

/-!
# The syntax of types

The types of the language as trees, the tokens that they are written with, and
the texts that spell them: tokens with blanks before them. The tokens of a type
are proper and can be told from their text without blanks. Where blanks are
collapsed the text still spells the same type. Annotations inside of types are
not considered, and neither are names with a dollar sign.
-/

namespace EndpointStubs.Java.Written

def reservedWords : List String :=
  ["abstract", "assert", "boolean", "break", "byte", "case", "catch", "char", "class", "const",
    "continue", "default", "do", "double", "else", "enum", "extends", "final", "finally", "float",
    "for", "goto", "if", "implements", "import", "instanceof", "int", "interface", "long", "native",
    "new", "package", "private", "protected", "public", "return", "short", "static", "strictfp",
    "super", "switch", "synchronized", "this", "throw", "throws", "transient", "try", "void",
    "volatile", "while", "_", "true", "false", "null"]

def primitiveTypes : List String :=
  ["boolean", "byte", "char", "double", "float", "int", "long", "short"]

/-- A word that may name a type. -/
structure TypeName extends Identifier where
  notReserved : String.ofList chars ∉ reservedWords
  notDigit : chars.head?.any Char.isDigit = false

/-- A name with the names of packages or types before it. -/
structure TypeNames where
  qualifiers : List TypeName
  last : TypeName

mutual

inductive ReferenceType where
  | name (names : TypeNames)
  /-- A type with type arguments, and the member types behind it. -/
  | generic (names : TypeNames) (arguments : TypeArguments) (members : MemberTypes)
  | primitiveArray (keyword : String) (known : keyword ∈ primitiveTypes)
  | array (element : ReferenceType)

/-- The arguments between angle brackets; there is at least one. -/
inductive TypeArguments where
  | last (argument : TypeArgument)
  | cons (argument : TypeArgument) (arguments : TypeArguments)

inductive TypeArgument where
  | exact (type : ReferenceType)
  | wildcard
  | extending (bound : ReferenceType)
  | superOf (bound : ReferenceType)

inductive MemberTypes where
  | nil
  | name (name : TypeName) (members : MemberTypes)
  | generic (name : TypeName) (arguments : TypeArguments) (members : MemberTypes)

end

inductive JavaType where
  | primitive (keyword : String) (known : keyword ∈ primitiveTypes)
  | reference (type : ReferenceType)

def TypeName.token (name : TypeName) : TypeToken :=
  .word name.chars

def TypeNames.tokens (names : TypeNames) : List TypeToken :=
  names.qualifiers.flatMap (fun q ↦ [q.token, .mark '.']) ++ [names.last.token]

def keywordToken (keyword : String) : TypeToken :=
  .word keyword.toList

mutual

def ReferenceType.tokens : ReferenceType → List TypeToken
  | .name names => names.tokens
  | .generic names arguments members =>
    names.tokens ++ .mark '<' :: (arguments.tokens ++ members.tokens)
  | .primitiveArray keyword _ => [keywordToken keyword, .mark '[', .mark ']']
  | .array element => element.tokens ++ [.mark '[', .mark ']']

/-- The arguments with commas between them, and the closing bracket. -/
def TypeArguments.tokens : TypeArguments → List TypeToken
  | .last argument => argument.tokens ++ [.mark '>']
  | .cons argument arguments => argument.tokens ++ .mark ',' :: arguments.tokens

def TypeArgument.tokens : TypeArgument → List TypeToken
  | .exact type => type.tokens
  | .wildcard => [.mark '?']
  | .extending bound => .mark '?' :: keywordToken "extends" :: bound.tokens
  | .superOf bound => .mark '?' :: keywordToken "super" :: bound.tokens

def MemberTypes.tokens : MemberTypes → List TypeToken
  | .nil => []
  | .name name members => .mark '.' :: name.token :: members.tokens
  | .generic name arguments members =>
    .mark '.' :: name.token :: .mark '<' :: (arguments.tokens ++ members.tokens)

end

def JavaType.tokens : JavaType → List TypeToken
  | .primitive keyword _ => [keywordToken keyword]
  | .reference type => type.tokens

theorem isProper_keywordToken {keyword : String} (h : keyword ∈ primitiveTypes) :
    (keywordToken keyword).IsProper := by
  have hall : ∀ keyword ∈ primitiveTypes, (keywordToken keyword).IsProper := by decide
  exact hall keyword h

theorem TypeName.isProper_token (name : TypeName) : name.token.IsProper :=
  ⟨name.ne_nil, name.word⟩

theorem TypeNames.isProper_tokens (names : TypeNames) : ∀ t ∈ names.tokens, t.IsProper := by
  refine List.forall_mem_append.2 ⟨fun t ht ↦ ?_, List.forall_mem_singleton.2
    names.last.isProper_token⟩
  obtain ⟨q, -, ht⟩ := List.mem_flatMap.1 ht
  rcases List.mem_cons.1 ht with rfl | ht
  · exact q.isProper_token
  · rw [List.mem_singleton.1 ht]
    decide

mutual

theorem ReferenceType.isProper_tokens (type : ReferenceType) : ∀ t ∈ type.tokens, t.IsProper := by
  cases type with
  | name names =>
    rw [ReferenceType.tokens]
    exact names.isProper_tokens
  | generic names arguments members =>
    simp only [ReferenceType.tokens, List.forall_mem_append, List.forall_mem_cons]
    exact ⟨names.isProper_tokens, by decide, arguments.isProper_tokens,
      members.isProper_tokens⟩
  | primitiveArray keyword known =>
    simp only [ReferenceType.tokens, List.forall_mem_cons]
    exact ⟨isProper_keywordToken known, by decide⟩
  | array element =>
    rw [ReferenceType.tokens, List.forall_mem_append]
    exact ⟨element.isProper_tokens, by decide⟩

theorem TypeArguments.isProper_tokens (arguments : TypeArguments) :
    ∀ t ∈ arguments.tokens, t.IsProper := by
  cases arguments with
  | last argument =>
    rw [TypeArguments.tokens, List.forall_mem_append]
    exact ⟨argument.isProper_tokens, by decide⟩
  | cons argument arguments =>
    rw [TypeArguments.tokens, List.forall_mem_append, List.forall_mem_cons]
    exact ⟨argument.isProper_tokens, by decide, arguments.isProper_tokens⟩

theorem TypeArgument.isProper_tokens (argument : TypeArgument) :
    ∀ t ∈ argument.tokens, t.IsProper := by
  cases argument with
  | exact type =>
    rw [TypeArgument.tokens]
    exact type.isProper_tokens
  | wildcard =>
    rw [TypeArgument.tokens]
    decide
  | extending bound =>
    simp only [TypeArgument.tokens, List.forall_mem_cons]
    exact ⟨by decide, by decide, bound.isProper_tokens⟩
  | superOf bound =>
    simp only [TypeArgument.tokens, List.forall_mem_cons]
    exact ⟨by decide, by decide, bound.isProper_tokens⟩

theorem MemberTypes.isProper_tokens (members : MemberTypes) : ∀ t ∈ members.tokens, t.IsProper := by
  cases members with
  | nil =>
    rw [MemberTypes.tokens]
    exact fun t ht ↦ absurd ht List.not_mem_nil
  | name name members =>
    simp only [MemberTypes.tokens, List.forall_mem_cons]
    exact ⟨by decide, name.isProper_token, members.isProper_tokens⟩
  | generic name arguments members =>
    simp only [MemberTypes.tokens, List.forall_mem_cons, List.forall_mem_append]
    exact ⟨by decide, name.isProper_token, by decide, arguments.isProper_tokens,
      members.isProper_tokens⟩

end

theorem JavaType.isProper_tokens (type : JavaType) : ∀ t ∈ type.tokens, t.IsProper := by
  cases type with
  | primitive keyword known => exact List.forall_mem_singleton.2 (isProper_keywordToken known)
  | reference type => exact type.isProper_tokens

namespace TypeToken

variable {ts : List TypeToken}

theorem noWordFirst_mark (c : Char) (ts : List TypeToken) : NoWordFirst (mark c :: ts) := by
  rintro t ⟨⟩
  rfl

theorem readable_true (hfirst : NoWordFirst ts) (h : Readable false ts) : Readable true ts := by
  cases ts with
  | nil => trivial
  | cons t ts =>
    cases t with
    | word chars => cases hfirst (word chars) rfl
    | mark c => exact h

end TypeToken

open TypeToken (NoWordFirst Readable)

theorem TypeNames.readable_append (names : TypeNames) {rest : List TypeToken}
    (hfirst : NoWordFirst rest) (h : Readable false rest) :
    Readable false (names.tokens ++ rest) := by
  rw [TypeNames.tokens]
  induction names.qualifiers with
  | nil => exact ⟨hfirst, h⟩
  | cons q qualifiers ih =>
    rw [List.flatMap_cons]
    exact ⟨TypeToken.noWordFirst_mark _ _, ih⟩

theorem TypeNames.exists_tokens_cons (names : TypeNames) : ∃ name : TypeName, ∃ ts,
    names.tokens = name.token :: ts := by
  rw [TypeNames.tokens]
  cases names.qualifiers with
  | nil => exact ⟨names.last, [], rfl⟩
  | cons q qualifiers => exact ⟨q, _, rfl⟩

/-- A type begins with a word. -/
theorem ReferenceType.exists_tokens_cons (type : ReferenceType) :
    ∃ chars ts, type.tokens = .word chars :: ts := by
  cases type with
  | name names =>
    obtain ⟨name, ts, h⟩ := names.exists_tokens_cons
    exact ⟨name.chars, ts, by rw [ReferenceType.tokens, h, TypeName.token]⟩
  | generic names arguments members =>
    obtain ⟨name, ts, h⟩ := names.exists_tokens_cons
    exact ⟨name.chars, _, by rw [ReferenceType.tokens, h, TypeName.token, List.cons_append]⟩
  | primitiveArray keyword known => exact ⟨_, _, by rw [ReferenceType.tokens, keywordToken]⟩
  | array element =>
    obtain ⟨chars, ts, h⟩ := element.exists_tokens_cons
    exact ⟨chars, _, by rw [ReferenceType.tokens, h, List.cons_append]⟩

theorem MemberTypes.noWordFirst_append (members : MemberTypes) {rest : List TypeToken}
    (hfirst : NoWordFirst rest) : NoWordFirst (members.tokens ++ rest) := by
  cases members with
  | nil =>
    rw [MemberTypes.tokens]
    exact hfirst
  | name name members =>
    rw [MemberTypes.tokens]
    exact TypeToken.noWordFirst_mark _ _
  | generic name arguments members =>
    rw [MemberTypes.tokens]
    exact TypeToken.noWordFirst_mark _ _

/-- A bound is read behind its keyword as it is read alone. -/
theorem ReferenceType.readable_bound (bound : ReferenceType) {keyword : String}
    (hkeyword : keyword.toList ∈ ["extends".toList, "super".toList]) {rest : List TypeToken}
    (h : Readable false (bound.tokens ++ rest)) :
    Readable false (.mark '?' :: keywordToken keyword :: bound.tokens ++ rest) := by
  obtain ⟨chars, ts, htokens⟩ := bound.exists_tokens_cons
  rw [htokens] at h ⊢
  exact ⟨hkeyword, h⟩

mutual

theorem ReferenceType.readable_append (type : ReferenceType) {rest : List TypeToken}
    (hfirst : NoWordFirst rest) (h : Readable false rest) :
    Readable false (type.tokens ++ rest) := by
  cases type with
  | name names =>
    rw [ReferenceType.tokens]
    exact names.readable_append hfirst h
  | generic names arguments members =>
    rw [ReferenceType.tokens, List.append_assoc, List.cons_append, List.append_assoc]
    exact names.readable_append (TypeToken.noWordFirst_mark _ _)
      (arguments.readable_append (members.noWordFirst_append hfirst)
        (members.readable_append hfirst h))
  | primitiveArray keyword known =>
    rw [ReferenceType.tokens]
    exact ⟨TypeToken.noWordFirst_mark _ _, h⟩
  | array element =>
    rw [ReferenceType.tokens, List.append_assoc]
    exact element.readable_append (TypeToken.noWordFirst_mark _ _) h

theorem TypeArguments.readable_append (arguments : TypeArguments) {rest : List TypeToken}
    (hfirst : NoWordFirst rest) (h : Readable false rest) :
    Readable false (arguments.tokens ++ rest) := by
  cases arguments with
  | last argument =>
    rw [TypeArguments.tokens, List.append_assoc]
    exact argument.readable_append (TypeToken.noWordFirst_mark _ _) h
  | cons argument arguments =>
    rw [TypeArguments.tokens, List.append_assoc, List.cons_append]
    exact argument.readable_append (TypeToken.noWordFirst_mark _ _)
      (arguments.readable_append hfirst h)

theorem TypeArgument.readable_append (argument : TypeArgument) {rest : List TypeToken}
    (hfirst : NoWordFirst rest) (h : Readable false rest) :
    Readable false (argument.tokens ++ rest) := by
  cases argument with
  | exact type =>
    rw [TypeArgument.tokens]
    exact type.readable_append hfirst h
  | wildcard =>
    rw [TypeArgument.tokens]
    exact TypeToken.readable_true hfirst h
  | extending bound =>
    rw [TypeArgument.tokens]
    exact bound.readable_bound (by decide) (bound.readable_append hfirst h)
  | superOf bound =>
    rw [TypeArgument.tokens]
    exact bound.readable_bound (by decide) (bound.readable_append hfirst h)

theorem MemberTypes.readable_append (members : MemberTypes) {rest : List TypeToken}
    (hfirst : NoWordFirst rest) (h : Readable false rest) :
    Readable false (members.tokens ++ rest) := by
  cases members with
  | nil =>
    rw [MemberTypes.tokens]
    exact h
  | name name members =>
    rw [MemberTypes.tokens]
    exact ⟨members.noWordFirst_append hfirst, members.readable_append hfirst h⟩
  | generic name arguments members =>
    simp only [MemberTypes.tokens, List.cons_append, List.append_assoc]
    exact ⟨TypeToken.noWordFirst_mark _ _, arguments.readable_append
      (members.noWordFirst_append hfirst) (members.readable_append hfirst h)⟩

end

theorem JavaType.readable (type : JavaType) : Readable false type.tokens := by
  have hnil : NoWordFirst [] := nofun
  cases type with
  | primitive keyword known => exact ⟨hnil, trivial⟩
  | reference type =>
    have h := type.readable_append hnil trivial
    rwa [List.append_nil] at h

theorem TypeArgument.readable (argument : TypeArgument) : Readable false argument.tokens := by
  have h : Readable false (argument.tokens ++ []) := argument.readable_append nofun trivial
  rwa [List.append_nil] at h

theorem JavaType.exists_tokens_cons (type : JavaType) :
    ∃ chars ts, type.tokens = .word chars :: ts := by
  cases type with
  | primitive keyword known => exact ⟨_, _, rfl⟩
  | reference type => exact type.exists_tokens_cons

/-! ## Spelled tokens -/

/-- Tokens with the blanks before each. -/
def spell (pieces : List (Gap × TypeToken)) : List Char :=
  pieces.flatMap fun x ↦ x.1.chars ++ x.2.chars

/-- The tokens in their order, words kept apart from each other. -/
structure IsSpelling (ts : List TypeToken) (pieces : List (Gap × TypeToken)) : Prop where
  tokens : pieces.map Prod.snd = ts
  apart : pieces.IsChain fun x y ↦ x.2.isWord → y.2.isWord → y.1.chars ≠ []

/-- The text is the type, without blanks at its ends. -/
def JavaType.IsSpelledAs (type : JavaType) (text : String) : Prop :=
  ∃ pieces, IsSpelling type.tokens pieces ∧ text = .ofList (Text.trim (spell pieces))

theorem isBlank_nil : ∀ c ∈ ([] : List Char), Text.isBlank c = true :=
  nofun

theorem isBlank_space : ∀ c ∈ [' '], Text.isBlank c = true :=
  List.all_eq_true.1 rfl

/-- The blanks, collapsed. -/
def Gap.collapsed (gap : Gap) : Gap :=
  if gap.chars = [] then gap else ⟨[' '], isBlank_space⟩

def collapsePieces (pieces : List (Gap × TypeToken)) : List (Gap × TypeToken) :=
  pieces.map fun x ↦ (x.1.collapsed, x.2)

section Spelling

variable {ts : List TypeToken} {pieces more : List (Gap × TypeToken)}

theorem spell_append : spell (pieces ++ more) = spell pieces ++ spell more :=
  List.flatMap_append

theorem map_snd_collapsePieces : (collapsePieces pieces).map Prod.snd = pieces.map Prod.snd := by
  rw [collapsePieces, List.map_map]
  rfl

theorem Gap.collapsed_chars_eq_nil_iff {gap : Gap} :
    gap.collapsed.chars = [] ↔ gap.chars = [] := by
  rw [Gap.collapsed]
  split
  · rfl
  · rename_i hne
    exact iff_of_false (List.cons_ne_nil _ _) hne

theorem IsSpelling.collapse (h : IsSpelling ts pieces) : IsSpelling ts (collapsePieces pieces) := by
  refine ⟨map_snd_collapsePieces.trans h.tokens, ?_⟩
  refine List.isChain_map_of_isChain _ (fun x y hapart hx hy hnil ↦ ?_) h.apart
  exact hapart hx hy (Gap.collapsed_chars_eq_nil_iff.1 hnil)

theorem TypeToken.IsProper.isBlank_eq_false {t : TypeToken} (h : t.IsProper) :
    ∀ c ∈ t.chars, Text.isBlank c = false := by
  intro c hc
  have hmem := h.removeBlanks_chars ▸ hc
  simpa using (List.mem_filter.1 hmem).2

theorem removeBlanks_spell (h : ∀ x ∈ pieces, x.2.IsProper) :
    Text.removeBlanks (spell pieces) = TypeToken.text (pieces.map Prod.snd) := by
  induction pieces with
  | nil => rfl
  | cons x pieces ih =>
    rw [List.forall_mem_cons] at h
    rw [spell, List.flatMap_cons, Text.removeBlanks_append, Text.removeBlanks_append,
      Text.removeBlanks_eq_nil x.1.blank, h.1.removeBlanks_chars, List.nil_append, List.map_cons,
      TypeToken.text_cons, ← spell, ih h.2]

theorem collapseBlanks_eq_self {chars : List Char} (h : ∀ c ∈ chars, Text.isBlank c = false) :
    Text.collapseBlanks chars = chars := by
  fun_induction Text.collapseBlanks chars with
  | case1 => rfl
  | case2 c => rw [if_neg (by rw [h c List.mem_cons_self]; exact Bool.false_ne_true)]
  | case3 c d rest hc hd ih => cases hc.symm.trans (h c List.mem_cons_self)
  | case4 c d rest hc hd ih => cases hc.symm.trans (h c List.mem_cons_self)
  | case5 c d rest hc ih => rw [ih fun e he ↦ h e (List.mem_cons_of_mem _ he)]

/-- Only spaces are left of the blanks. -/
theorem eq_space_of_mem_collapseBlanks {c : Char} {chars : List Char}
    (h : c ∈ Text.collapseBlanks chars) (hc : Text.isBlank c = true) : c = ' ' := by
  fun_induction Text.collapseBlanks chars with
  | case1 => cases h
  | case2 d =>
    rw [List.mem_singleton] at h
    split at h
    · exact h
    · rename_i hd
      exact absurd (h ▸ hc) hd
  | case3 d e rest hd he ih => exact ih h
  | case4 d e rest hd he ih => exact (List.mem_cons.1 h).elim id ih
  | case5 d e rest hd ih =>
    rcases List.mem_cons.1 h with rfl | h
    · exact absurd hc hd
    · exact ih h

theorem Gap.collapseBlanks_append (gap : Gap) {chars : List Char} (hne : chars ≠ [])
    (h : ∀ c ∈ chars, Text.isBlank c = false) :
    Text.collapseBlanks (gap.chars ++ chars) = gap.collapsed.chars ++ chars := by
  obtain ⟨c, rest, rfl⟩ := List.exists_cons_of_ne_nil hne
  have hself := collapseBlanks_eq_self h
  have hc := h c List.mem_cons_self
  rw [Gap.collapsed]
  split
  · rename_i hnil
    rw [hnil, List.nil_append, hself]
  · rename_i hgap
    have hblank := gap.blank
    generalize gap.chars = blanks at hgap hblank
    induction blanks with
    | nil => exact absurd rfl hgap
    | cons b blanks ih =>
      rw [List.forall_mem_cons] at hblank
      cases blanks with
      | nil =>
        rw [List.singleton_append, Text.collapseBlanks, if_pos hblank.1, hc, hself]
        rfl
      | cons b' blanks =>
        rw [List.cons_append, List.cons_append, Text.collapseBlanks, if_pos hblank.1,
          if_pos (hblank.2 b' List.mem_cons_self), ← List.cons_append]
        exact ih (List.cons_ne_nil _ _) hblank.2

/-- Where blanks are collapsed, the tokens keep single blanks or none before them. -/
theorem collapseBlanks_spell (h : ∀ x ∈ pieces, x.2.IsProper) :
    Text.collapseBlanks (spell pieces) = spell (collapsePieces pieces) := by
  induction pieces with
  | nil => rfl
  | cons x pieces ih =>
    rw [List.forall_mem_cons] at h
    have hblank := h.1.isBlank_eq_false
    have hne : x.1.chars ++ x.2.chars ≠ [] :=
      List.append_ne_nil_of_right_ne_nil _ h.1.chars_ne_nil
    have hlast : ∀ c ∈ (x.1.chars ++ x.2.chars).getLast?, Text.isBlank c = false := by
      rw [List.getLast?_append_of_ne_nil _ h.1.chars_ne_nil]
      exact fun c hc ↦ hblank c (List.mem_of_getLast? hc)
    rw [spell, List.flatMap_cons, Text.collapseBlanks_append_stop hne hlast,
      x.1.collapseBlanks_append h.1.chars_ne_nil hblank, ← spell, ih h.2]
    rfl

/-- The tokens without the blanks before the first of them. -/
def trimPieces : List (Gap × TypeToken) → List (Gap × TypeToken)
  | [] => []
  | (_, t) :: pieces => (⟨[], isBlank_nil⟩, t) :: pieces

theorem map_snd_trimPieces : (trimPieces pieces).map Prod.snd = pieces.map Prod.snd := by
  cases pieces <;> rfl

theorem gap_head_trimPieces : ∀ x ∈ (trimPieces pieces).head?, x.1.chars = [] := by
  cases pieces with
  | nil => nofun
  | cons x pieces =>
    rintro y ⟨⟩
    rfl

/-- A condition on the blanks between two tokens holds if the first blanks are left out. -/
theorem isChain_trimPieces {p : TypeToken → Gap → TypeToken → Prop}
    (h : pieces.IsChain fun x y ↦ p x.2 y.1 y.2) :
    (trimPieces pieces).IsChain fun x y ↦ p x.2 y.1 y.2 := by
  cases pieces with
  | nil => exact h
  | cons x pieces =>
    cases pieces with
    | nil => exact .singleton _
    | cons y pieces =>
      rw [List.isChain_cons_cons] at h
      exact List.isChain_cons_cons.2 h

theorem IsSpelling.trim (h : IsSpelling ts pieces) : IsSpelling ts (trimPieces pieces) :=
  ⟨map_snd_trimPieces.trans h.tokens,
    isChain_trimPieces (p := fun t gap u ↦ t.isWord → u.isWord → gap.chars ≠ []) h.apart⟩

theorem isBlank_getLast_spell (h : ∀ x ∈ pieces, x.2.IsProper) :
    ∀ c ∈ (spell pieces).getLast?, Text.isBlank c = false := by
  intro c hc
  rcases List.eq_nil_or_concat pieces with rfl | ⟨before, x, rfl⟩
  · cases hc
  · rw [List.concat_eq_append] at h hc
    have hx := h x (List.mem_append_right _ (List.mem_singleton_self _))
    rw [spell_append, spell, spell, List.flatMap_singleton, ← List.append_assoc,
      List.getLast?_append_of_ne_nil _ hx.chars_ne_nil] at hc
    exact hx.isBlank_eq_false c (List.mem_of_getLast? hc)

/-- Blanks at the ends are no part of the type. -/
theorem trim_spell_append (h : ∀ x ∈ pieces, x.2.IsProper) (gap : Gap) :
    Text.trim (spell pieces ++ gap.chars) = spell (trimPieces pieces) := by
  cases pieces with
  | nil =>
    have hstart : Text.trimStart gap.chars = [] := List.dropWhile_eq_nil_iff.2 gap.blank
    rw [spell, List.flatMap_nil, List.nil_append, Text.trim, hstart]
    rfl
  | cons x pieces =>
    have hx := h x List.mem_cons_self
    have hhead : ∀ c ∈ (x.2.chars ++ spell pieces).head?, Text.isBlank c = false := by
      rw [List.head?_append_of_ne_nil _ hx.chars_ne_nil]
      exact fun c hc ↦ hx.isBlank_eq_false c (List.mem_of_mem_head? hc)
    have hlast : ∀ c ∈ (x.2.chars ++ spell pieces).getLast?, Text.isBlank c = false := by
      have hne := List.append_ne_nil_of_left_ne_nil hx.chars_ne_nil (spell pieces)
      have hspell := isBlank_getLast_spell h
      rwa [spell, List.flatMap_cons, List.append_assoc, ← spell,
        List.getLast?_append_of_ne_nil _ hne] at hspell
    have htrim := trim_between x.1.blank hhead hlast
      (List.append_ne_nil_of_left_ne_nil hx.chars_ne_nil _) gap.blank
    rw [spell, List.flatMap_cons, List.append_assoc, List.append_assoc,
      ← List.append_assoc x.2.chars, ← spell, htrim]
    rfl

theorem trim_spell (h : ∀ x ∈ pieces, x.2.IsProper) :
    Text.trim (spell pieces) = spell (trimPieces pieces) := by
  have htrim := trim_spell_append h ⟨[], isBlank_nil⟩
  rwa [List.append_nil] at htrim

/-- The tokens with the blanks that are recorded before them. -/
def compactPieces (pieces : List (Gap × TypeToken)) : List (Gap × TypeToken) :=
  trimPieces (collapsePieces pieces)

theorem IsSpelling.compact (h : IsSpelling ts pieces) : IsSpelling ts (compactPieces pieces) :=
  h.collapse.trim

theorem isProper_collapsePieces (h : ∀ x ∈ pieces, x.2.IsProper) :
    ∀ x ∈ collapsePieces pieces, x.2.IsProper := by
  intro x hx
  obtain ⟨y, hy, rfl⟩ := List.mem_map.1 hx
  exact h y hy

theorem trimPieces_compactPieces : trimPieces (compactPieces pieces) = compactPieces pieces := by
  cases pieces <;> rfl

theorem isProper_compactPieces (h : ∀ x ∈ pieces, x.2.IsProper) :
    ∀ x ∈ compactPieces pieces, x.2.IsProper := by
  rw [← List.forall_mem_map (f := Prod.snd) (P := TypeToken.IsProper), compactPieces,
    map_snd_trimPieces, map_snd_collapsePieces]
  exact List.forall_mem_map.2 h

theorem compact_spell (h : ∀ x ∈ pieces, x.2.IsProper) :
    Text.compact (spell pieces) = spell (compactPieces pieces) := by
  rw [Text.compact, collapseBlanks_spell h, trim_spell (isProper_collapsePieces h), compactPieces]

theorem not_mem_newline_spell_compactPieces (h : ∀ x ∈ pieces, x.2.IsProper) :
    '\n' ∉ spell (compactPieces pieces) := by
  rw [← compact_spell h, Text.compact]
  intro hmem
  cases eq_space_of_mem_collapseBlanks (Text.mem_of_mem_trim hmem) (by decide)

theorem tail_compactPieces : (compactPieces pieces).tail = collapsePieces pieces.tail := by
  cases pieces <;> rfl

/-- No blanks stand between the tokens. -/
def IsTight (pieces : List (Gap × TypeToken)) : Prop :=
  ∀ x ∈ pieces.tail, x.1.chars = []

instance (pieces : List (Gap × TypeToken)) : Decidable (IsTight pieces) :=
  inferInstanceAs (Decidable (∀ x ∈ _, _))

theorem forall_iff_isTight (h : ∀ x ∈ pieces.head?, x.1.chars = []) :
    (∀ x ∈ pieces, x.1.chars = []) ↔ IsTight pieces := by
  cases pieces with
  | nil => rfl
  | cons x pieces => rw [List.forall_mem_cons, IsTight, List.tail_cons, and_iff_right (h x rfl)]

theorem forall_trimPieces_iff : (∀ x ∈ trimPieces pieces, x.1.chars = []) ↔ IsTight pieces := by
  rw [forall_iff_isTight gap_head_trimPieces]
  cases pieces <;> rfl

theorem forall_collapsePieces :
    (∀ x ∈ collapsePieces pieces, x.1.chars = []) ↔ ∀ x ∈ pieces, x.1.chars = [] := by
  rw [collapsePieces, List.forall_mem_map]
  exact forall₂_congr fun _ _ ↦ Gap.collapsed_chars_eq_nil_iff

theorem isTight_compactPieces : IsTight (compactPieces pieces) ↔ IsTight pieces := by
  rw [IsTight, tail_compactPieces, forall_collapsePieces, IsTight]

theorem isTight_take_compactPieces (k : Nat) :
    IsTight ((compactPieces pieces).take k) ↔ IsTight (pieces.take k) := by
  have htake : (compactPieces pieces).take k = compactPieces (pieces.take k) := by
    cases k with
    | zero => rfl
    | succ k =>
      cases pieces with
      | nil => rfl
      | cons x pieces =>
        rw [compactPieces, collapsePieces, List.map_cons, trimPieces, List.take_succ_cons,
          ← List.map_take]
        rfl
  rw [htake, isTight_compactPieces]

theorem isTight_drop_compactPieces (k : Nat) :
    IsTight ((compactPieces pieces).drop (k + 1)).dropLast ↔
      IsTight (pieces.drop (k + 1)).dropLast := by
  have hdrop : (compactPieces pieces).drop (k + 1) = collapsePieces (pieces.drop (k + 1)) := by
    rw [← List.drop_tail, tail_compactPieces, collapsePieces, collapsePieces, ← List.map_drop,
      List.drop_tail]
  have htail : ((compactPieces pieces).drop (k + 1)).dropLast.tail =
      collapsePieces (pieces.drop (k + 1)).dropLast.tail := by
    rw [hdrop, collapsePieces, collapsePieces, ← List.map_dropLast, List.map_tail]
  rw [IsTight, htail, forall_collapsePieces, IsTight]

/-- Tokens without any blanks are spelled as their text. -/
theorem spell_eq_text (h : ∀ x ∈ pieces, x.1.chars = []) :
    spell pieces = TypeToken.text (pieces.map Prod.snd) := by
  rw [spell, TypeToken.text, List.flatMap_map]
  exact List.flatMap_congr fun x hx ↦ by rw [h x hx, List.nil_append]

/-- A text without blanks is spelled by its tokens, without blanks before them. -/
theorem spell_eq_text_iff (hproper : ∀ x ∈ pieces, x.2.IsProper) (hts : ∀ t ∈ ts, t.IsProper)
    (hreadable : Readable false (pieces.map Prod.snd)) (hreadable' : Readable false ts) :
    spell pieces = TypeToken.text ts ↔
      pieces.map Prod.snd = ts ∧ ∀ x ∈ pieces, x.1.chars = [] := by
  constructor
  · intro h
    have hblank : ∀ c ∈ spell pieces, Text.isBlank c = false := by
      intro c hc
      rw [h] at hc
      obtain ⟨t, ht, hc⟩ := List.mem_flatMap.1 hc
      exact (hts t ht).isBlank_eq_false c hc
    have htext : TypeToken.text (pieces.map Prod.snd) = TypeToken.text ts := by
      rw [← removeBlanks_spell hproper, ← h]
      exact List.filter_eq_self.2 fun c hc ↦ by rw [hblank c hc]; rfl
    refine ⟨TypeToken.eq_of_text_eq (List.forall_mem_map.2 hproper) hts hreadable hreadable' htext,
      fun x hx ↦ List.eq_nil_iff_forall_not_mem.2 fun c hc ↦ ?_⟩
    have hmem : c ∈ spell pieces := List.mem_flatMap.2 ⟨x, hx, List.mem_append_left _ hc⟩
    have hgap := x.1.blank c hc
    rw [hblank c hmem] at hgap
    cases hgap
  · rintro ⟨rfl, hgaps⟩
    exact spell_eq_text hgaps

end Spelling

theorem IsSpelling.isProper {ts : List TypeToken} {pieces : List (Gap × TypeToken)}
    (h : IsSpelling ts pieces) (hts : ∀ t ∈ ts, t.IsProper) : ∀ x ∈ pieces, x.2.IsProper :=
  fun x hx ↦ hts x.2 (h.tokens ▸ List.mem_map_of_mem hx)

/-- A text spells one type only, as far as its tokens go. -/
theorem JavaType.tokens_eq_of_isSpelledAs {type : JavaType} {pieces : List (Gap × TypeToken)}
    (hproper : ∀ x ∈ pieces, x.2.IsProper) (hreadable : Readable false (pieces.map Prod.snd))
    (h : type.IsSpelledAs (.ofList (Text.trim (spell pieces)))) :
    type.tokens = pieces.map Prod.snd := by
  obtain ⟨spelling, hspelling, htext⟩ := h
  have hremove {xs : List (Gap × TypeToken)} (hxs : ∀ x ∈ xs, x.2.IsProper) :
      Text.removeBlanks (Text.trim (spell xs)) = TypeToken.text (xs.map Prod.snd) := by
    have htrimmed : ∀ x ∈ trimPieces xs, x.2.IsProper := by
      rw [← List.forall_mem_map (f := Prod.snd) (P := TypeToken.IsProper), map_snd_trimPieces]
      exact List.forall_mem_map.2 hxs
    rw [trim_spell hxs, removeBlanks_spell htrimmed, map_snd_trimPieces]
  have hproper' := hspelling.isProper type.isProper_tokens
  have htokens := congrArg Text.removeBlanks (String.ofList_inj.1 htext)
  rw [hremove hproper, hremove hproper', hspelling.tokens] at htokens
  exact TypeToken.eq_of_text_eq type.isProper_tokens (List.forall_mem_map.2 hproper) type.readable
    hreadable htokens.symm

/-- Collapsed, the text of a type still spells it. -/
theorem JavaType.isSpelledAs_compact {type : JavaType} {pieces : List (Gap × TypeToken)}
    (h : IsSpelling type.tokens pieces) :
    type.IsSpelledAs (.ofList (Text.compact (spell pieces))) :=
  have hproper := h.isProper type.isProper_tokens
  ⟨collapsePieces pieces, h.collapse, by rw [Text.compact, collapseBlanks_spell hproper]⟩

end EndpointStubs.Java.Written
