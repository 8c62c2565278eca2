import EndpointStubs.Proofs.HeaderReading
import Mathlib.Data.List.Basic

/-!
# Reading signatures

What the readers of signatures find in a declaration that is written as such,
and that they find neither a type nor a method where none is declared.
-/

namespace EndpointStubs.Java

open Written (Gap Identifier EndsType firstWord)

theorem firstWord_append {ys : List Char} (hys : ∀ c ∈ ys.head?, Text.isWord c = false)
    (xs : List Char) : firstWord (xs ++ ys) = firstWord xs := by
  have hstop : ys.takeWhile Text.isWord = [] :=
    Text.takeWhile_append_stop (fun _ hc ↦ absurd hc List.not_mem_nil) hys
  rw [firstWord, List.takeWhile_append, hstop, List.append_nil, firstWord]
  split
  · rename_i hlength
    rw [(List.takeWhile_prefix Text.isWord).eq_of_length hlength]
  · rfl

theorem isWord_of_typeKeyword {keyword : String} (h : keyword ∈ typeKeywords) :
    ∀ c ∈ keyword.toList, Text.isWord c = true := by
  have hall : ∀ keyword ∈ typeKeywords, keyword.toList.all Text.isWord = true := by
    decide
  exact List.all_eq_true.1 (hall keyword h)

/-- A text that does not start with a keyword declares no type. -/
theorem typeName?_eq_none {text : List Char} (h : firstWord text ∉ typeKeywords) :
    typeName? text = none := by
  rw [typeName?]
  split
  · rfl
  · rename_i rest hfind
    obtain ⟨keyword, hkeyword, hafter⟩ := List.exists_of_findSome?_eq_some hfind
    have htext := Text.after?_eq_some_iff.1 hafter
    dsimp only
    split
    · rfl
    · rename_i hblank
      have hblanks : rest.takeWhile Text.isBlank ≠ [] := fun hnil ↦
        hblank (.inl (List.isEmpty_iff.2 hnil))
      have hfirst : firstWord text = keyword := by
        rw [firstWord, htext, Text.takeWhile_append_stop (isWord_of_typeKeyword hkeyword)
          (Text.isWord_head_eq_false hblanks), String.ofList_toList]
      rw [hfirst] at h
      exact absurd hkeyword h

theorem findSome?_typeKeywords {keyword : String} (h : keyword ∈ typeKeywords)
    (rest : List Char) :
    (typeKeywords.findSome? fun k ↦ Text.after? k.toList (keyword.toList ++ rest)) = some rest := by
  simp only [typeKeywords, List.mem_cons, List.not_mem_nil, or_false] at h
  rcases h with rfl | rfl | rfl | rfl <;> simp [typeKeywords, List.findSome?, Text.after?]

theorem typeName?_eq_some {keyword : String} (h : keyword ∈ typeKeywords) {gap : Gap}
    (hgap : gap.chars ≠ []) (name : Identifier) {tail : List Char}
    (htail : ∀ c ∈ tail.head?, Text.isWord c = false) :
    typeName? (keyword.toList ++ (gap.chars ++ (name.chars ++ tail))) = some name.text := by
  obtain ⟨c, cs, hc, hword⟩ := name.exists_cons
  have hstart : ∀ d ∈ (name.chars ++ tail).head?, Text.isBlank d = false := by
    intro d hd
    rw [hc] at hd
    cases hd
    exact Text.isBlank_eq_false_of_isWord hword
  have hblanks : ¬ (((gap.chars ++ (name.chars ++ tail)).takeWhile Text.isBlank).isEmpty = true ∨
      name.chars.isEmpty = true) := by
    rw [Text.takeWhile_append_stop gap.blank hstart, List.isEmpty_iff, List.isEmpty_iff]
    exact not_or.2 ⟨hgap, name.ne_nil⟩
  have hname := Text.takeWhile_append_stop name.word htail
  have htrim := Text.trimStart_append_stop gap.blank hstart
  rw [typeName?, findSome?_typeKeywords h]
  simp only [htrim, hname, hblanks, if_false]
  rfl

section Head

variable {type gap name before after : List Char}

theorem typedHead?_eq_none (hbefore : ∀ c ∈ before, isBeforeParameters c = true)
    (hafter : ∀ c ∈ after.head?, c = '=') : typedHead? (before ++ after) = none := by
  have hstop : ∀ c ∈ after.head?, isBeforeParameters c = false := by
    intro c hc
    rw [hafter c hc]
    rfl
  rw [typedHead?, Text.dropWhile_append_stop hbefore hstop]
  split
  · rename_i parameters
    exact absurd (hafter '(' rfl) (by decide)
  · rfl

/-- What `typedHead?` makes of the text before the parenthesis. -/
theorem typedHead?_parenthesis (hbefore : ∀ c ∈ before, isBeforeParameters c = true)
    (hsplit : Text.splitTrailing Text.isWord (Text.trimEnd before) = (gap, name))
    {parameters : List Char} :
    typedHead? (before ++ '(' :: parameters) =
      if name.isEmpty ∨ Text.trimEnd gap = gap ∨ ((Text.trimEnd gap).isEmpty ∧ gap.length < 2) then
        none
      else some ⟨.ofList (Text.compact (Text.trimEnd gap)), .ofList name, parameters⟩ := by
  have hstop : ∀ c ∈ ('(' :: parameters).head?, isBeforeParameters c = false := by
    intro c hc
    cases hc
    rfl
  rw [typedHead?, Text.dropWhile_append_stop hbefore hstop,
    Text.takeWhile_append_stop hbefore hstop, hsplit]
  rfl

end Head

theorem getLast?_append_identifier (xs : List Char) (name : Identifier) :
    ∀ c ∈ (xs ++ name.chars).getLast?, Text.isBlank c = false := by
  intro c hc
  rw [List.getLast?_append_of_ne_nil xs name.ne_nil] at hc
  exact Text.isBlank_eq_false_of_isWord (name.word c (List.mem_of_getLast? hc))

theorem getLast?_append_gap {type : List Char} {gap : Gap} (h : EndsType type gap) :
    ∀ c ∈ (type ++ gap.chars).getLast?, Text.isWord c = false := by
  obtain ⟨d, hd, hblank, hword⟩ := h
  intro c hc
  rw [List.getLast?_append] at hc
  cases hlast : gap.chars.getLast? with
  | none =>
    have hd' : type.getLast? = some d := hd
    rw [hlast, Option.none_or, hd'] at hc
    cases hc
    exact hword (List.getLast?_eq_none_iff.1 hlast)
  | some e =>
    rw [hlast, Option.some_or] at hc
    rw [← Option.some.inj hc]
    exact Text.isWord_eq_false_of_isBlank (gap.blank e (List.mem_of_getLast? hlast))

theorem getLast?_type {type : List Char} {gap : Gap} (h : EndsType type gap) :
    ∀ c ∈ type.getLast?, Text.isBlank c = false := by
  obtain ⟨d, hd, hblank, -⟩ := h
  intro c hc
  rw [Option.mem_def] at hc hd
  rw [hd] at hc
  cases hc
  exact hblank

/-- A method is found if there are blanks before its name. -/
theorem typedHead?_signature {type : List Char} {gap nameGap : Gap} {name : Identifier}
    (hends : EndsType type gap)
    (hbefore : ∀ c ∈ type ++ gap.chars ++ name.chars ++ nameGap.chars, isBeforeParameters c = true)
    (parameters : List Char) :
    typedHead? (type ++ gap.chars ++ name.chars ++ nameGap.chars ++ '(' :: parameters) =
      if gap.chars = [] then none
      else some ⟨.ofList (Text.compact type), name.text, parameters⟩ := by
  have htrim := Text.trimEnd_append_stop (getLast?_append_identifier (type ++ gap.chars) name)
    nameGap.blank
  have hsplit := Text.splitTrailing_append_stop (getLast?_append_gap hends) name.word
  have htype : Text.trimEnd (type ++ gap.chars) = type :=
    Text.trimEnd_append_stop (getLast?_type hends) gap.blank
  rw [typedHead?_parenthesis hbefore (by rw [htrim, hsplit]), htype]
  split
  · rename_i hcondition
    rcases hcondition with hname | hself | ⟨hempty, -⟩
    · exact absurd (List.isEmpty_iff.1 hname) name.ne_nil
    · rw [if_pos (List.self_eq_append_right.1 hself)]
    · obtain ⟨d, hd, -⟩ := hends
      rw [List.isEmpty_iff.1 hempty] at hd
      cases hd
  · rename_i hcondition
    have hgap : gap.chars ≠ [] := fun hnil ↦
      hcondition (.inr (.inl (by rw [hnil, List.append_nil])))
    rw [if_neg hgap]
    rfl

/-- A name without a type before it is not read as a method. -/
theorem typedHead?_name {parameters : List Char} {gap : Gap} {name : Identifier}
    (hbefore : ∀ c ∈ name.chars ++ gap.chars, isBeforeParameters c = true) :
    typedHead? (name.chars ++ gap.chars ++ '(' :: parameters) = none := by
  have htrim := Text.trimEnd_append_stop (getLast?_append_identifier [] name) gap.blank
  rw [List.nil_append] at htrim
  have hnil : ∀ c ∈ ([] : List Char).getLast?, Text.isWord c = false := by
    intro c hc
    cases hc
  have hsplit := Text.splitTrailing_append_stop hnil name.word
  rw [List.nil_append] at hsplit
  rw [typedHead?_parenthesis hbefore (by rw [htrim, hsplit]), if_pos (.inr (.inl rfl))]

theorem methodHead?_eq_typedHead? {declaration : List Char} (h : declaration.head? ≠ some '<') :
    methodHead? declaration = typedHead? declaration := by
  cases declaration with
  | nil => rfl
  | cons c rest =>
    rw [methodHead?]
    intro typeParameters heq
    rw [heq] at h
    exact h rfl

/-- The parameters of a head that is found start after a parenthesis of the text. -/
theorem typedHead?_eq_some {text : List Char} {head : MethodHead}
    (h : typedHead? text = some head) :
    ∃ before, text = before ++ '(' :: head.parameters ∧
      ∀ c ∈ before, isBeforeParameters c = true := by
  rw [typedHead?] at h
  split at h
  · rename_i parameters hdrop
    refine ⟨text.takeWhile isBeforeParameters, ?_, fun c hc ↦ List.mem_takeWhile_imp hc⟩
    dsimp only at h
    split at h
    · cases h
    · rw [← Option.some.inj h, ← hdrop, List.takeWhile_append_dropWhile]
  · cases h

theorem methodHead?_eq_some {text : List Char} {head : MethodHead}
    (h : methodHead? text = some head) :
    ∃ before, text = before ++ '(' :: head.parameters ∧
      (text.head? ≠ some '<' → ∀ c ∈ before, isBeforeParameters c = true) := by
  by_cases hsection : text.head? = some '<'
  · obtain ⟨typeParameters, rfl⟩ := List.head?_eq_some_iff.1 hsection
    have hread : ∃ read, read <:+ '<' :: typeParameters ∧ typedHead? read = some head := by
      rw [methodHead?] at h
      split at h
      · rename_i rest hrest
        have hsuffix : rest <:+ '<' :: typeParameters :=
          (List.suffix_cons '>' rest).trans
            ((hrest ▸ List.dropWhile_suffix _).trans (List.suffix_cons _ _))
        rcases (Option.orElse_eq_some _ _ _).1 h with hread | ⟨-, h⟩
        · exact ⟨_, (List.dropWhile_suffix _).trans hsuffix, hread⟩
        · rcases (Option.orElse_eq_some _ _ _).1 h with hread | ⟨-, hread⟩
          · exact ⟨_, hsuffix, hread⟩
          · exact ⟨_, List.suffix_rfl, hread⟩
      · exact ⟨_, List.suffix_rfl, h⟩
    obtain ⟨read, ⟨skipped, hskipped⟩, hhead⟩ := hread
    obtain ⟨before, htext, -⟩ := typedHead?_eq_some hhead
    refine ⟨skipped ++ before, ?_, fun hnot ↦ absurd rfl hnot⟩
    rw [List.append_assoc, ← htext, hskipped]
  · rw [methodHead?_eq_typedHead? hsection] at h
    obtain ⟨before, htext, hbefore⟩ := typedHead?_eq_some h
    exact ⟨before, htext, fun _ ↦ hbefore⟩

theorem typeAndName?_eq_some {type : List Char} {gap trail : Gap} {name : Identifier}
    (hstart : ∀ c ∈ type.head?, Text.isBlank c = false) (hends : EndsType type gap) :
    typeAndName? (type ++ gap.chars ++ name.chars ++ trail.chars) =
      some (.ofList (Text.compact type), name.text) := by
  have hne : type ≠ [] := by
    rintro rfl
    obtain ⟨d, hd, -⟩ := hends
    cases hd
  have hstart' : ∀ c ∈ (type ++ gap.chars ++ name.chars ++ trail.chars).head?,
      Text.isBlank c = false := by
    rw [List.append_assoc, List.append_assoc, List.head?_append_of_ne_nil _ hne]
    exact hstart
  have htrim : Text.trim (type ++ gap.chars ++ name.chars ++ trail.chars) =
      type ++ gap.chars ++ name.chars := by
    rw [Text.trim, Text.trimStart_eq_self hstart',
      Text.trimEnd_append_stop (getLast?_append_identifier _ name) trail.blank]
  have hsplit := Text.splitTrailing_append_stop (getLast?_append_gap hends) name.word
  have htype : Text.trimEnd (type ++ gap.chars) = type :=
    Text.trimEnd_append_stop (getLast?_type hends) gap.blank
  have hread : ¬ (name.chars.isEmpty = true ∨ type.isEmpty = true) := by
    rw [List.isEmpty_iff, List.isEmpty_iff]
    exact not_or.2 ⟨name.ne_nil, hne⟩
  have hcompact := Text.compact_append_blanks (getLast?_type hends) gap.blank
  rw [typeAndName?, htrim, hsplit]
  simp only [htype, hread, if_false, hcompact]
  rfl

end EndpointStubs.Java
