import EndpointStubs.Fact.Scan
import EndpointStubs.Proofs.InertText

/-!
# How deep types can be within each other

Each type within another one stands in its braces. So if no part of a text opens
more than so many braces that it does not close, no more types than that stand
within each other in it, whatever the text is. Whether this holds is seen by going
through the text once and counting the braces that are open; and texts for which
the count is known before and behind can be joined.
-/

namespace EndpointStubs.Java

open Written

/-- How many braces are open behind a text, if so many are open before it. There is no answer if
more than `top` are open at once or one is closed that is not open. -/
def openBraces? (top before : Nat) : List Lexeme → Option Nat
  | [] => some before
  | l :: rest =>
    if l = .char '{' then if before < top then openBraces? top (before + 1) rest else none
    else if l = .char '}' then if 0 < before then openBraces? top (before - 1) rest else none
    else openBraces? top before rest

section OpenBraces

variable {top before after : Nat} {xs ys : List Lexeme}

theorem openBraces?_append : openBraces? top before (xs ++ ys) =
    (openBraces? top before xs).bind (openBraces? top · ys) := by
  induction xs generalizing before with
  | nil => rfl
  | cons l xs ih =>
    rw [List.cons_append, openBraces?, openBraces?]
    split
    · split
      · exact ih
      · rfl
    · split
      · split
        · exact ih
        · rfl
      · exact ih

theorem openBraces?_of_forall_ne (h : ∀ l ∈ xs, l ≠ .char '{' ∧ l ≠ .char '}') :
    openBraces? top before xs = some before := by
  induction xs with
  | nil => rfl
  | cons l xs ih =>
    obtain ⟨hopen, hclose⟩ := h l List.mem_cons_self
    rw [openBraces?, if_neg hopen, if_neg hclose]
    exact ih fun m hm ↦ h m (List.mem_cons_of_mem _ hm)

/-- What is opened is closed or open in the end. -/
theorem count_of_openBraces? (h : openBraces? top before xs = some after) (hbefore : before ≤ top) :
    after ≤ top ∧ before + xs.count (.char '{') = after + xs.count (.char '}') := by
  induction xs generalizing before with
  | nil =>
    cases h
    exact ⟨hbefore, rfl⟩
  | cons l xs ih =>
    rw [openBraces?] at h
    split_ifs at h with hopen htop hclose hpos
    · obtain ⟨hafter, hcount⟩ := ih h htop
      subst hopen
      rw [List.count_cons_self, List.count_cons_of_ne (by decide)]
      exact ⟨hafter, by omega⟩
    · obtain ⟨hafter, hcount⟩ := ih h (by omega)
      subst hclose
      rw [List.count_cons_self, List.count_cons_of_ne (by decide)]
      exact ⟨hafter, by omega⟩
    · obtain ⟨hafter, hcount⟩ := ih h hbefore
      rw [List.count_cons_of_ne hopen, List.count_cons_of_ne hclose]
      exact ⟨hafter, hcount⟩

/-- No part of the text opens more than `top` braces that it does not close. -/
def OpensAtMost (top : Nat) (text : List Lexeme) : Prop :=
  ∀ part, part <:+: text → part.count (.char '{') ≤ part.count (.char '}') + top

theorem OpensAtMost.of_infix (h : OpensAtMost top xs) (hys : ys <:+: xs) : OpensAtMost top ys :=
  fun part hpart ↦ h part (hpart.trans hys)

theorem opensAtMost_of_openBraces? (h : openBraces? top before xs = some after)
    (hbefore : before ≤ top) : OpensAtMost top xs := by
  rintro part ⟨front, back, rfl⟩
  rw [openBraces?_append, openBraces?_append, Option.bind_assoc] at h
  obtain ⟨middle, hfront, h⟩ := Option.bind_eq_some_iff.1 h
  obtain ⟨last, hpart, -⟩ := Option.bind_eq_some_iff.1 h
  obtain ⟨hmiddle, -⟩ := count_of_openBraces? hfront hbefore
  obtain ⟨hlast, hcount⟩ := count_of_openBraces? hpart hmiddle
  omega

end OpenBraces

/-- Up to the brace that closes a block no more braces are closed than are opened. -/
theorem count_le_of_closing {depth : Nat} {text inside after front : List Lexeme}
    (h : closing '{' '}' depth text = some (inside, after)) (hfront : front <+: inside) :
    front.count (.char '}') ≤ front.count (.char '{') + depth := by
  induction text generalizing depth inside front with
  | nil => cases h
  | cons l rest ih =>
    cases front with
    | nil => exact Nat.zero_le _
    | cons m front =>
      rw [closing] at h
      split_ifs at h with hclose hzero hopen
      · cases h
        cases List.prefix_nil.1 hfront
      · obtain ⟨⟨inner, back⟩, hrest, heq⟩ := Option.map_eq_some_iff.1 h
        cases heq
        obtain ⟨rfl, hinner⟩ := List.cons_prefix_cons.1 hfront
        have hle := ih hrest hinner
        subst hclose
        rw [List.count_cons_self, List.count_cons_of_ne (by decide)]
        omega
      · obtain ⟨⟨inner, back⟩, hrest, heq⟩ := Option.map_eq_some_iff.1 h
        cases heq
        obtain ⟨rfl, hinner⟩ := List.cons_prefix_cons.1 hfront
        have hle := ih hrest hinner
        subst hopen
        rw [List.count_cons_self, List.count_cons_of_ne (by decide)]
        omega
      · obtain ⟨⟨inner, back⟩, hrest, heq⟩ := Option.map_eq_some_iff.1 h
        cases heq
        obtain ⟨rfl, hinner⟩ := List.cons_prefix_cons.1 hfront
        have hle := ih hrest hinner
        rw [List.count_cons_of_ne hclose, List.count_cons_of_ne hopen]
        exact hle

/-- A block is one brace less deep than the text that it stands in. -/
theorem OpensAtMost.of_closing {top : Nat} {rest body after : List Lexeme}
    (h : OpensAtMost top (.char '{' :: rest))
    (hclose : closing '{' '}' 0 rest = some (body, after)) :
    0 < top ∧ OpensAtMost (top - 1) body := by
  have hpositive : 0 < top := by
    have hbrace := h [.char '{'] ((List.prefix_cons_inj _).2 List.nil_prefix).isInfix
    rwa [List.count_singleton_self, List.count_eq_zero_of_not_mem (by decide),
      Nat.zero_add] at hbrace
  refine ⟨hpositive, ?_⟩
  rintro part ⟨front, back, rfl⟩
  have hfront : front.count (.char '}') ≤ front.count (.char '{') + 0 :=
    count_le_of_closing hclose ((List.prefix_append front part).trans (List.prefix_append _ back))
  have hpart := h (.char '{' :: (front ++ part)) ⟨[], back ++ .char '}' :: after, by
    rw [append_of_closing hclose]
    simp⟩
  rw [List.count_cons_self, List.count_cons_of_ne (by decide), List.count_append,
    List.count_append] at hpart
  omega

theorem listNesting_append (xs ys : List Member) :
    Member.listNesting (xs ++ ys) = max (Member.listNesting xs) (Member.listNesting ys) := by
  induction xs with
  | nil => rw [List.nil_append, Member.listNesting, Nat.zero_max]
  | cons x xs ih => rw [List.cons_append, Member.listNesting, Member.listNesting, ih, Nat.max_assoc]

theorem listNesting_method? (annotations : List AnnotationUse) (declaration after : List Lexeme)
    (following : List Char) : Member.listNesting
      ((method? annotations declaration after following).map Member.method).toList = 0 := by
  cases method? annotations declaration after following <;> rfl

theorem listNesting_filter_le (xs : List Member) (p : Member → Bool) :
    Member.listNesting (xs.filter p) ≤ Member.listNesting xs := by
  induction xs with
  | nil => exact Nat.le_refl _
  | cons x xs ih =>
    rw [List.filter_cons, Member.listNesting]
    split
    · rw [Member.listNesting]
      exact Nat.max_le.2 ⟨Nat.le_max_left _ _, ih.trans (Nat.le_max_right _ _)⟩
    · exact ih.trans (Nat.le_max_right _ _)

/-- The types of a text are within each other no deeper than braces are. -/
theorem listNesting_members_le {top : Nat} {text : List Lexeme} (following : List Char)
    (h : OpensAtMost top text) : Member.listNesting (members following text) ≤ top := by
  fun_induction members following text generalizing top with
  | case1 => exact Nat.zero_le _
  | case2 following text header after hnext annotations declaration hpeel member =>
    rename_i ih
    have hafter : after <:+: text := by
      rw [append_of_nextHeader? hnext]
      exact ((List.suffix_cons _ _).trans (List.suffix_append _ _)).isInfix
    rw [listNesting_append]
    refine Nat.max_le.2 ⟨?_, ih (h.of_infix hafter)⟩
    dsimp only [member]
    split
    · exact Nat.zero_le _
    · exact (listNesting_method? _ _ _ _).trans_le (Nat.zero_le _)
  | case3 => exact Nat.zero_le _
  | case4 following text header rest hnext body after hclose annotations declaration hpeel member
      ihBody =>
    rename_i ih
    have hblock : .char '{' :: rest <:+: text := by
      rw [append_of_nextHeader? hnext]
      exact (List.suffix_append _ _).isInfix
    have hafter : after <:+: text := by
      refine List.IsInfix.trans ?_ hblock
      rw [append_of_closing hclose]
      exact ((List.suffix_cons _ _).trans (List.suffix_append (.char '{' :: body) _)).isInfix
    obtain ⟨hpositive, hbody⟩ := (h.of_infix hblock).of_closing hclose
    rw [listNesting_append]
    refine Nat.max_le.2 ⟨?_, ih (h.of_infix hafter)⟩
    dsimp only [member]
    split
    · have hmembers := ihBody hbody
      rw [Option.toList_some, Member.listNesting, Member.listNesting, Member.nesting, Nat.max_zero]
      omega
    · exact (listNesting_method? _ _ _ _).trans_le (Nat.zero_le _)

/-- The braces of the text that are no part of a literal take so many open braces to so many, never
more than `top`. -/
structure Braced (top before after : Nat) (text : List Char) : Prop where
  isWhole : ∀ l ∈ lex text, l.IsWhole
  braces : openBraces? top before (lex text) = some after

namespace Braced

variable {top before middle after : Nat} {text more : List Char}

/-- For a literal without quotes, as `Unmarked.ofList`. -/
theorem ofList {chars : List Char} (hquotes : chars.any isQuote = false)
    (hbraces : openBraces? top before (plain chars) = some after) :
    Braced top before after (String.ofList chars).toList := by
  have hplain : ∀ c ∈ chars, isQuote c = false := fun c hc ↦
    Bool.eq_false_iff.2 (List.any_eq_false.1 hquotes c hc)
  rw [String.toList_ofList]
  refine ⟨?_, ?_⟩ <;> rw [Inert.lex_eq_plain hplain]
  · intro l hl
    obtain ⟨c, hc, rfl⟩ := List.mem_map.1 hl
    exact hplain c hc
  · exact hbraces

theorem append (h : Braced top before middle text) (hmore : Braced top middle after more) :
    Braced top before after (text ++ more) := by
  have hlex := lex_append_of_isWhole h.isWhole more
  refine ⟨?_, ?_⟩
  · rw [hlex]
    exact List.forall_mem_append.2 ⟨h.isWhole, hmore.isWhole⟩
  · rw [hlex, openBraces?_append, h.braces]
    exact hmore.braces

theorem append_string {text more : String} (h : Braced top before middle text.toList)
    (hmore : Braced top middle after more.toList) :
    Braced top before after (text ++ more).toList := by
  rw [String.toList_append]
  exact h.append hmore

/-- Code without quotes and braces. -/
theorem of_forall (h : ∀ c ∈ text, isQuote c = false ∧ c ≠ '{' ∧ c ≠ '}') :
    Braced top before before text := by
  have hlex : lex text = plain text := Inert.lex_eq_plain fun c hc ↦ (h c hc).1
  have hplain : ∀ l ∈ lex text, l.IsWhole ∧ l ≠ .char '{' ∧ l ≠ .char '}' := by
    rw [hlex]
    intro l hl
    obtain ⟨c, hc, rfl⟩ := List.mem_map.1 hl
    obtain ⟨hquote, hopen, hclose⟩ := h c hc
    exact ⟨hquote, fun heq ↦ hopen (Lexeme.char.inj heq), fun heq ↦
      hclose (Lexeme.char.inj heq)⟩
  exact ⟨fun l hl ↦ (hplain l hl).1, openBraces?_of_forall_ne fun l hl ↦ (hplain l hl).2⟩

theorem of_unmarked {text : String} (h : Unmarked true text) :
    Braced top before before text.toList := by
  refine of_forall fun c hc ↦ ⟨(not_mem_marks (h c hc)).1, ?_, ?_⟩
  · rintro rfl
    exact h _ hc (by decide)
  · rintro rfl
    exact h _ hc (by decide)

/-- The literal of a text on one line brings no braces. -/
theorem literal (hline : '\n' ∉ text) :
    Braced top before before ('"' :: (escape text ++ ['"'])) := by
  have hlex := lex_quoted hline
  refine ⟨?_, ?_⟩
  · rw [hlex]
    exact List.forall_mem_singleton.2 (isWhole_quoted hline)
  · rw [hlex]
    exact openBraces?_of_forall_ne (List.forall_mem_singleton.2
      ⟨Lexeme.noConfusion, Lexeme.noConfusion⟩)

/-- So many types at most are within each other in a whole source like that. -/
theorem nesting_ofText_le {source : List Char} (h : Braced top before after source)
    (hbefore : before ≤ top) (hslash : .char '/' ∉ lex source) :
    (Outline.ofText source).nesting ≤ top := by
  have hstrip := stripComments_of_not_hasCommentMark (not_hasCommentMark_of_not_mem hslash)
  rw [Outline.ofText, hstrip]
  exact (listNesting_filter_le _ _).trans
    (listNesting_members_le [] (opensAtMost_of_openBraces? h.braces hbefore))

end Braced

end EndpointStubs.Java
