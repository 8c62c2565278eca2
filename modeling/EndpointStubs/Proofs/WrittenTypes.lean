import EndpointStubs.Proofs.ArgumentReading

/-!
# Written types

A type of a parameter as it is written: words and marks, and the blanks between
them. What is left without the blanks is still read in one way only, as two words
stand side by side nowhere but in the bounds of wildcards. Annotations inside of
a type are not admitted here: their names run into the words behind them, and
`@A BC` is `@AB C` without its blank.
-/

namespace EndpointStubs.Java.Written

inductive TypeToken where
  | word (chars : List Char)
  | mark (c : Char)
  deriving DecidableEq, Repr

/-- The marks of qualified names, type arguments, wildcards, arrays and variable arity, and the dollar
sign, which names may have though it is no part of a word. -/
def typeMarks : List Char :=
  ['.', ',', '<', '>', '?', '[', ']', '$']

namespace TypeToken

def chars : TypeToken → List Char
  | word chars => chars
  | mark c => [c]

def isWord : TypeToken → Bool
  | word _ => true
  | mark _ => false

def IsProper : TypeToken → Prop
  | word chars => chars ≠ [] ∧ ∀ c ∈ chars, Text.isWord c = true
  | mark c => c ∈ typeMarks

instance : (t : TypeToken) → Decidable t.IsProper
  | word chars => decidable_of_iff (chars ≠ [] ∧ chars.all Text.isWord = true)
      (and_congr_right fun _ ↦ List.all_eq_true)
  | mark _ => inferInstanceAs (Decidable (_ ∈ _))

/-- No word comes first. -/
def NoWordFirst (ts : List TypeToken) : Prop :=
  ∀ t ∈ ts.head?, t.isWord = false

instance (ts : List TypeToken) : Decidable (NoWordFirst ts) :=
  inferInstanceAs (Decidable (∀ t ∈ ts.head?, _))

/-- A word is followed by another one only as the keyword of a bound, right behind the question mark
of a wildcard. -/
def Readable : (wildcard : Bool) → List TypeToken → Prop
  | _, [] => True
  | _, mark c :: rest => Readable (c == '?') rest
  | false, word _ :: rest => NoWordFirst rest ∧ Readable false rest
  | true, word keyword :: word _ :: rest =>
    keyword ∈ ["extends".toList, "super".toList] ∧ NoWordFirst rest ∧ Readable false rest
  | true, [word _] => False
  | true, word _ :: mark _ :: _ => False

instance decidableReadable :
    (wildcard : Bool) → (ts : List TypeToken) → Decidable (Readable wildcard ts)
  | true, [] => inferInstanceAs (Decidable True)
  | false, [] => inferInstanceAs (Decidable True)
  | true, mark c :: rest => decidableReadable (c == '?') rest
  | false, mark c :: rest => decidableReadable (c == '?') rest
  | false, word _ :: rest =>
    have := decidableReadable false rest
    inferInstanceAs (Decidable (_ ∧ _))
  | true, word _ :: word _ :: rest =>
    have := decidableReadable false rest
    inferInstanceAs (Decidable (_ ∧ _ ∧ _))
  | true, [word _] => inferInstanceAs (Decidable False)
  | true, word _ :: mark _ :: _ => inferInstanceAs (Decidable False)

/-- The text without blanks. -/
def text (ts : List TypeToken) : List Char :=
  ts.flatMap chars

variable {t : TypeToken} {ts us : List TypeToken}

theorem IsProper.chars_ne_nil (h : t.IsProper) : t.chars ≠ [] := by
  cases t with
  | word chars => exact h.1
  | mark c => exact List.cons_ne_nil _ _

theorem isWord_eq_false_of_mem_typeMarks {c : Char} (h : c ∈ typeMarks) :
    Text.isWord c = false := by
  have hall : typeMarks.all (fun c ↦ !Text.isWord c) = true := by decide
  simpa using List.all_eq_true.1 hall c h

theorem text_cons (t : TypeToken) (ts : List TypeToken) : text (t :: ts) = t.chars ++ text ts :=
  List.flatMap_cons

theorem text_eq_nil_iff (h : ∀ t ∈ ts, t.IsProper) : text ts = [] ↔ ts = [] := by
  cases ts with
  | nil => exact iff_of_true rfl rfl
  | cons t ts =>
    refine iff_of_false ?_ (List.cons_ne_nil _ _)
    rw [text_cons]
    exact List.append_ne_nil_of_left_ne_nil (h t List.mem_cons_self).chars_ne_nil _

/-- A text starts with a word exactly if its tokens do. -/
theorem isWord_head_text (h : ∀ t ∈ ts, t.IsProper) (hfirst : NoWordFirst ts) :
    ∀ c ∈ (text ts).head?, Text.isWord c = false := by
  cases ts with
  | nil => nofun
  | cons t ts =>
    cases t with
    | word chars => cases hfirst _ rfl
    | mark c =>
      intro d hd
      cases hd
      exact isWord_eq_false_of_mem_typeMarks (h _ List.mem_cons_self)

/-- A word is told from the text behind it. -/
theorem word_append_inj {xs ys xs' ys' : List Char} (hxs : ∀ c ∈ xs, Text.isWord c = true)
    (hys : ∀ c ∈ ys, Text.isWord c = true) (hxs' : ∀ c ∈ xs'.head?, Text.isWord c = false)
    (hys' : ∀ c ∈ ys'.head?, Text.isWord c = false) (h : xs ++ xs' = ys ++ ys') :
    xs = ys ∧ xs' = ys' := by
  have hrun := congrArg (List.takeWhile Text.isWord) h
  rw [Text.takeWhile_append_stop hxs hxs', Text.takeWhile_append_stop hys hys'] at hrun
  exact ⟨hrun, List.append_cancel_left (hrun ▸ h)⟩

/-- The keyword of a bound is told from the word behind it. -/
theorem keyword_append_inj {k l xs ys : List Char} (hk : k ∈ ["extends".toList, "super".toList])
    (hl : l ∈ ["extends".toList, "super".toList]) (h : k ++ xs = l ++ ys) : k = l ∧ xs = ys := by
  have hsame : k = l := by
    simp only [List.mem_cons, List.not_mem_nil, or_false] at hk hl
    rcases hk with rfl | rfl <;> rcases hl with rfl | rfl
    · rfl
    · exact absurd (List.cons.inj h).1 (by decide)
    · exact absurd (List.cons.inj h).1 (by decide)
    · rfl
  exact ⟨hsame, List.append_cancel_left (hsame ▸ h)⟩

theorem text_mark_ne_text_word {c : Char} {chars : List Char} (hmark : (mark c).IsProper)
    (hword : (word chars).IsProper) : text (mark c :: ts) ≠ text (word chars :: us) := by
  obtain ⟨d, ds, rfl⟩ := List.exists_cons_of_ne_nil hword.1
  intro h
  rw [text_cons, text_cons] at h
  obtain rfl : c = d := (List.cons.inj h).1
  have hisWord := hword.2 c List.mem_cons_self
  rw [isWord_eq_false_of_mem_typeMarks hmark] at hisWord
  cases hisWord

/-- The text without blanks tells the tokens. -/
theorem eq_of_text_eq {wildcard : Bool} (hts : ∀ t ∈ ts, t.IsProper) (hus : ∀ u ∈ us, u.IsProper)
    (hreadable : Readable wildcard ts) (hreadable' : Readable wildcard us)
    (h : text ts = text us) : ts = us := by
  fun_induction Readable wildcard ts generalizing us with
  | case1 => exact ((text_eq_nil_iff hus).1 h.symm).symm
  | case2 wildcard c rest ih =>
    obtain ⟨hc, hrest⟩ := List.forall_mem_cons.1 hts
    cases us with
    | nil => cases h
    | cons u others =>
      obtain ⟨hu, hothers⟩ := List.forall_mem_cons.1 hus
      cases u with
      | word chars => exact absurd h (text_mark_ne_text_word hc hu)
      | mark d =>
        rw [text_cons, text_cons] at h
        obtain ⟨rfl, htext⟩ := List.cons.inj h
        rw [Readable] at hreadable'
        rw [ih hrest hothers hreadable hreadable' htext]
  | case3 chars rest ih =>
    obtain ⟨hc, hrest⟩ := List.forall_mem_cons.1 hts
    cases us with
    | nil => exact absurd ((text_eq_nil_iff hts).1 h) (List.cons_ne_nil _ _)
    | cons u others =>
      obtain ⟨hu, hothers⟩ := List.forall_mem_cons.1 hus
      cases u with
      | mark d => exact absurd h.symm (text_mark_ne_text_word hu hc)
      | word chars' =>
        rw [text_cons, text_cons] at h
        obtain ⟨hfirst, hreadable⟩ := hreadable
        obtain ⟨hfirst', hreadable'⟩ := hreadable'
        obtain ⟨hchars, htext⟩ := word_append_inj hc.2 hu.2 (isWord_head_text hrest hfirst)
          (isWord_head_text hothers hfirst') h
        rw [ih hrest hothers hreadable hreadable' htext, hchars]
  | case4 keyword chars rest ih =>
    obtain ⟨hkeyword, hrest⟩ := List.forall_mem_cons.1 hts
    obtain ⟨hc, hrest⟩ := List.forall_mem_cons.1 hrest
    match us with
    | [] => exact absurd ((text_eq_nil_iff hts).1 h) (List.cons_ne_nil _ _)
    | mark d :: others =>
      exact absurd h.symm (text_mark_ne_text_word (hus _ List.mem_cons_self) hkeyword)
    | [word _] => cases hreadable'
    | word _ :: mark _ :: _ => cases hreadable'
    | word keyword' :: word chars' :: others =>
      obtain ⟨-, hothers⟩ := List.forall_mem_cons.1 hus
      obtain ⟨hu, hothers⟩ := List.forall_mem_cons.1 hothers
      obtain ⟨hknown, hfirst, hreadable⟩ := hreadable
      obtain ⟨hknown', hfirst', hreadable'⟩ := hreadable'
      rw [text_cons, text_cons, text_cons, text_cons] at h
      obtain ⟨hsame, h⟩ := keyword_append_inj hknown hknown' h
      obtain ⟨hchars, htext⟩ := word_append_inj hc.2 hu.2 (isWord_head_text hrest hfirst)
        (isWord_head_text hothers hfirst') h
      change keyword = keyword' at hsame
      change chars = chars' at hchars
      rw [ih hrest hothers hreadable hreadable' htext, hsame, hchars]
  | case5 => cases hreadable
  | case6 => cases hreadable

end TypeToken

theorem neutral_of_isBlank {c : Char} (h : Text.isBlank c = true) :
    Lexeme.char c ≠ .char ',' ∧ level (.char c) = 0 := by
  have hall : ∀ d ∈ [c], Text.isBlank d = true ∨ Text.isWord d = true := fun d hd ↦ by
    rw [List.mem_singleton.1 hd]
    exact .inl h
  exact Parameter.neutral_plain hall _ List.mem_cons_self

theorem levels_plain_removeBlanks (chars : List Char) :
    levels (plain (Text.removeBlanks chars)) = levels (plain chars) := by
  induction chars with
  | nil => rfl
  | cons c chars ih =>
    have hcons : levels (plain (c :: chars)) = level (.char c) + levels (plain chars) := rfl
    rw [hcons, Text.removeBlanks_cons, ← ih]
    split
    · rename_i hc
      rw [(neutral_of_isBlank hc).2, Int.zero_add]
    · rfl

theorem noSplit_plain_removeBlanks {chars : List Char} {depth : Int} :
    NoSplit depth (plain (Text.removeBlanks chars)) ↔ NoSplit depth (plain chars) := by
  induction chars generalizing depth with
  | nil => rfl
  | cons c chars ih =>
    have hcons {cs : List Char} : NoSplit depth (plain (c :: cs)) ↔
        ¬(Lexeme.char c = .char ',' ∧ depth = 0) ∧
          NoSplit (depth + level (.char c)) (plain cs) := Iff.rfl
    rw [hcons, Text.removeBlanks_cons]
    split
    · rename_i hc
      obtain ⟨hcomma, hlevel⟩ := neutral_of_isBlank hc
      rw [ih, hlevel, Int.add_zero]
      exact (and_iff_right fun h ↦ hcomma h.1).symm
    · rw [hcons, ih]

/-! ## Types -/

theorem TypeToken.IsProper.removeBlanks_chars {t : TypeToken} (h : t.IsProper) :
    Text.removeBlanks t.chars = t.chars := by
  refine List.filter_eq_self.2 fun c hc ↦ ?_
  rw [Bool.not_eq_true']
  cases t with
  | word chars => exact Text.isBlank_eq_false_of_isWord (h.2 c hc)
  | mark d =>
    have hall : typeMarks.all (fun c ↦ !Text.isBlank c) = true := by decide
    rw [TypeToken.chars, List.mem_singleton] at hc
    rw [hc]
    simpa using List.all_eq_true.1 hall d h

/-- The tokens are proper ones, they are kept apart, and commas stand in angle brackets only. -/
structure IsType (ts : List TypeToken) : Prop where
  proper : ∀ t ∈ ts, t.IsProper
  readable : TypeToken.Readable false ts
  noSplit : NoSplit 0 (plain (TypeToken.text ts))
  levels_eq : levels (plain (TypeToken.text ts)) = 0

instance (ts : List TypeToken) : Decidable (IsType ts) :=
  decidable_of_iff
    ((∀ t ∈ ts, t.IsProper) ∧ TypeToken.Readable false ts ∧
      NoSplit 0 (plain (TypeToken.text ts)) ∧ levels (plain (TypeToken.text ts)) = 0)
    ⟨fun ⟨h₁, h₂, h₃, h₄⟩ ↦ ⟨h₁, h₂, h₃, h₄⟩, fun ⟨h₁, h₂, h₃, h₄⟩ ↦ ⟨h₁, h₂, h₃, h₄⟩⟩

/-- The tokens of a type, with the blanks behind all but the last one. -/
structure TypeForm where
  init : List (TypeToken × Gap)
  last : TypeToken

namespace TypeForm

def tokens (type : TypeForm) : List TypeToken :=
  type.init.map Prod.fst ++ [type.last]

def chars (type : TypeForm) : List Char :=
  type.init.flatMap (fun x ↦ x.1.chars ++ x.2.chars) ++ type.last.chars

variable {type : TypeForm} (h : IsType type.tokens)

include h

theorem removeBlanks_chars : Text.removeBlanks type.chars = TypeToken.text type.tokens := by
  have htokens := h.proper
  rw [TypeForm.tokens, List.forall_mem_append] at htokens
  obtain ⟨hinit, hlast⟩ := htokens
  have hfront : Text.removeBlanks (type.init.flatMap fun x ↦ x.1.chars ++ x.2.chars) =
      TypeToken.text (type.init.map Prod.fst) := by
    generalize type.init = xs at hinit ⊢
    induction xs with
    | nil => rfl
    | cons x xs ih =>
      rw [List.map_cons] at hinit
      obtain ⟨hx, hxs⟩ := List.forall_mem_cons.1 hinit
      rw [List.flatMap_cons, Text.removeBlanks_append, Text.removeBlanks_append,
        hx.removeBlanks_chars, Text.removeBlanks_eq_nil x.2.blank, List.append_nil, ih hxs,
        List.map_cons, TypeToken.text_cons]
  have hback := (hlast _ (List.mem_singleton_self _)).removeBlanks_chars
  rw [TypeForm.chars, Text.removeBlanks_append, hfront, hback, TypeForm.tokens, TypeToken.text,
    TypeToken.text, List.flatMap_append, List.flatMap_singleton]

theorem mem_chars : ∀ c ∈ type.chars,
    (Text.isBlank c || Text.isWord c || typeMarks.contains c) = true := by
  intro c hc
  cases hblank : Text.isBlank c with
  | true => rfl
  | false =>
    have hmem : c ∈ TypeToken.text type.tokens := by
      rw [← removeBlanks_chars h]
      exact List.mem_filter.2 ⟨hc, by rw [hblank]; rfl⟩
    obtain ⟨t, ht, hc⟩ := List.mem_flatMap.1 hmem
    rw [Bool.false_or, Bool.or_eq_true, List.contains_iff_mem]
    cases t with
    | word chars => exact .inl ((h.proper _ ht).2 c hc)
    | mark d =>
      rw [TypeToken.chars, List.mem_singleton] at hc
      exact .inr (hc ▸ h.proper _ ht)

theorem unbracketed : Unbracketed (plain type.chars) :=
  unbracketed_plain (by decide) (mem_chars h)

theorem isWhole : ∀ l ∈ plain type.chars, l.IsWhole := by
  have hquotes : ['"', '\''].any
      (fun c ↦ Text.isBlank c || Text.isWord c || typeMarks.contains c) = false := by
    decide
  intro l hl
  obtain ⟨c, hc, rfl⟩ := List.mem_map.1 hl
  have hnot : c ∉ ['"', '\''] := fun hmem ↦ List.any_eq_false.1 hquotes c hmem (mem_chars h c hc)
  rw [List.mem_cons, List.mem_singleton, not_or] at hnot
  rw [Lexeme.IsWhole, isQuote, Bool.or_eq_false_iff, beq_eq_false_iff_ne, beq_eq_false_iff_ne]
  exact hnot

end TypeForm

theorem plain_intercalate (pieces : List (List Char)) :
    plain ([','].intercalate pieces) = [.char ','].intercalate (pieces.map plain) := by
  induction pieces with
  | nil => rfl
  | cons piece pieces ih =>
    cases pieces with
    | nil => rw [List.intercalate_singleton, List.map_singleton, List.intercalate_singleton]
    | cons next pieces =>
      rw [List.intercalate_cons_cons, plain_append, plain_append, ih, List.map_cons, List.map_cons,
        List.map_cons, List.intercalate_cons_cons]
      rfl

section Lists

variable {types others : List (List TypeToken)}

theorem intercalate_text_ne_nil {ts : List TypeToken} (hne : ts ≠ []) (h : IsType ts)
    (types : List (List TypeToken)) :
    [','].intercalate ((ts :: types).map TypeToken.text) ≠ [] := by
  have htext : TypeToken.text ts ≠ [] := fun hnil ↦ hne ((TypeToken.text_eq_nil_iff h.proper).1 hnil)
  cases types with
  | nil => simpa using htext
  | cons us types =>
    rw [List.map_cons, List.map_cons, List.intercalate_cons_cons, List.append_assoc]
    exact List.append_ne_nil_of_left_ne_nil htext _

/-- The commas between types are those outside of all brackets. -/
theorem commaPieces_intercalate_text (hne : types ≠ []) (h : ∀ ts ∈ types, ts ≠ [] ∧ IsType ts) :
    commaPieces 0 (plain ([','].intercalate (types.map TypeToken.text))) =
      types.map fun ts ↦ plain (TypeToken.text ts) := by
  rw [plain_intercalate, List.map_map, commaPieces_intercalate (by simpa using hne)]
  · rfl
  · intro piece hpiece
    obtain ⟨ts, hts, rfl⟩ := List.mem_map.1 hpiece
    exact ⟨(h ts hts).2.noSplit, (h ts hts).2.levels_eq⟩

theorem eq_of_map_text_eq (htypes : ∀ ts ∈ types, ts ≠ [] ∧ IsType ts)
    (hothers : ∀ us ∈ others, us ≠ [] ∧ IsType us)
    (h : (types.map fun ts ↦ plain (TypeToken.text ts)) =
      others.map fun us ↦ plain (TypeToken.text us)) : types = others := by
  induction types generalizing others with
  | nil => exact (List.map_eq_nil_iff.1 h.symm).symm
  | cons ts types ih =>
    cases others with
    | nil => cases h
    | cons us others =>
      obtain ⟨⟨-, hts⟩, htypes⟩ := List.forall_mem_cons.1 htypes
      obtain ⟨⟨-, hus⟩, hothers⟩ := List.forall_mem_cons.1 hothers
      obtain ⟨htext, hrest⟩ := List.cons.inj h
      have hsame : TypeToken.text ts = TypeToken.text us := by
        have hflatten := congrArg flatten htext
        rwa [flatten_plain, flatten_plain] at hflatten
      rw [TypeToken.eq_of_text_eq hts.proper hus.proper hts.readable hus.readable hsame,
        ih htypes hothers hrest]

/-- The types of a list are told by their texts with commas between them. -/
theorem eq_of_intercalate_text_eq (htypes : ∀ ts ∈ types, ts ≠ [] ∧ IsType ts)
    (hothers : ∀ us ∈ others, us ≠ [] ∧ IsType us)
    (h : [','].intercalate (types.map TypeToken.text) =
      [','].intercalate (others.map TypeToken.text)) : types = others := by
  cases types with
  | nil =>
    cases others with
    | nil => rfl
    | cons us others =>
      obtain ⟨hne, hus⟩ := hothers us List.mem_cons_self
      exact absurd h.symm (intercalate_text_ne_nil hne hus others)
  | cons ts types =>
    cases others with
    | nil =>
      obtain ⟨hne, hts⟩ := htypes ts List.mem_cons_self
      exact absurd h (intercalate_text_ne_nil hne hts types)
    | cons us others =>
      have hpieces := commaPieces_intercalate_text (List.cons_ne_nil ts types) htypes
      rw [h, commaPieces_intercalate_text (List.cons_ne_nil us others) hothers] at hpieces
      exact eq_of_map_text_eq htypes hothers hpieces.symm

end Lists

end EndpointStubs.Java.Written
