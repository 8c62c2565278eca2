import EndpointStubs.Proofs.MemberReading

/-!
# Reading initializers

After a block in the initializer of a field the text goes on like a declaration,
and may be taken for a method. Nothing is reported from it as long as the
parenthesis that it would be found by is not part of a literal: its parameters
are then read from the text itself, and nothing in that is annotated.
-/

namespace EndpointStubs.Java.Written

theorem exists_inHeader_of_parenthesis {depth : Nat} {xs ys : List Lexeme}
    (h : InHeader depth (xs ++ .char '(' :: ys)) : ∃ opened, InHeader (opened + 1) ys := by
  induction xs generalizing depth with
  | nil =>
    rw [List.nil_append, InHeader, if_pos rfl] at h
    exact ⟨depth, h⟩
  | cons l xs ih =>
    rw [List.cons_append, InHeader] at h
    split at h
    · exact ih h
    · split at h
      · exact ih h.2
      · exact ih h.2

/-- In the text of one header every parenthesis is closed. -/
theorem exists_closing {opened depth : Nat} {ys : List Lexeme} (h : InHeader (opened + 1) ys)
    (hdepth : depth ≤ opened) :
    ∃ inside outside, closing '(' ')' depth ys = some (inside, outside) := by
  induction ys generalizing opened depth with
  | nil => cases h
  | cons l ys ih =>
    rw [InHeader] at h
    rw [closing]
    split at h
    · rename_i hopen
      obtain ⟨inside, outside, hclose⟩ := ih h (Nat.succ_le_succ hdepth)
      rw [if_neg (by rw [hopen]; decide), if_pos hopen, hclose]
      exact ⟨_, _, rfl⟩
    · rename_i hopen
      split at h
      · rename_i hl
        rw [if_pos hl]
        split
        · exact ⟨_, _, rfl⟩
        · rename_i hpos
          have hsub : opened - 1 + 1 = opened := by omega
          have hrest : InHeader (opened - 1 + 1) ys := by
            rw [hsub]
            exact h.2
          obtain ⟨inside, outside, hclose⟩ := ih hrest (Nat.sub_le_sub_right hdepth 1)
          rw [hclose]
          exact ⟨_, _, rfl⟩
      · rename_i hl
        obtain ⟨inside, outside, hclose⟩ := ih h.2 hdepth
        rw [if_neg hl, if_neg hopen, hclose]
        exact ⟨_, _, rfl⟩

/-- A parenthesis in the text is a lexeme, or stands in a literal. -/
theorem exists_of_flatten_eq {ls : List Lexeme} {before after : List Char}
    (h : flatten ls = before ++ '(' :: after) :
    (∃ xs ys, ls = xs ++ .char '(' :: ys ∧ flatten ys = after) ∨
      ∃ xs text ys, ls = xs ++ .literal text :: ys ∧ '(' ∈ text := by
  induction ls generalizing before with
  | nil =>
    rw [flatten_nil] at h
    exact absurd h.symm (List.append_ne_nil_of_right_ne_nil _ (List.cons_ne_nil _ _))
  | cons l ls ih =>
    have hlater {rest : List Char} (hrest : flatten ls = rest ++ '(' :: after) :
        (∃ xs ys, l :: ls = xs ++ .char '(' :: ys ∧ flatten ys = after) ∨
          ∃ xs text ys, l :: ls = xs ++ .literal text :: ys ∧ '(' ∈ text := by
      rcases ih hrest with ⟨xs, ys, hls, hys⟩ | ⟨xs, text, ys, hls, htext⟩
      · exact .inl ⟨l :: xs, ys, by rw [hls, List.cons_append], hys⟩
      · exact .inr ⟨l :: xs, text, ys, by rw [hls, List.cons_append], htext⟩
    rw [flatten_cons] at h
    rcases List.append_eq_append_iff.1 h with ⟨rest, -, hrest⟩ | ⟨rest, hchars, hrest⟩
    · exact hlater hrest
    · cases rest with
      | nil =>
        have hnil : flatten ls = [] ++ '(' :: after := hrest.symm
        exact hlater hnil
      | cons c rest =>
        rw [List.cons_append] at hrest
        obtain ⟨hc, hafter⟩ := List.cons.inj hrest
        cases l with
        | char d =>
          have hd : before ++ c :: rest = [d] := hchars.symm
          cases before with
          | nil =>
            obtain ⟨hcd, hnil⟩ := List.cons.inj hd
            rw [hnil, List.nil_append] at hafter
            exact .inl ⟨[], ls, by rw [← hcd, ← hc, List.nil_append], hafter.symm⟩
          | cons e before => simp at hd
        | literal text =>
          have htext : text = before ++ c :: rest := hchars
          refine .inr ⟨[], text, ls, rfl, ?_⟩
          rw [htext, ← hc]
          exact List.mem_append_right _ List.mem_cons_self

namespace Continuation

variable {c : Continuation}

/-- A text is read rightly if no literal in it has an opening parenthesis. -/
theorem scannable_of_literals (h : ∀ text, .literal text ∈ c.text → '(' ∉ text) : c.Scannable := by
  intro head hhead
  obtain ⟨before, htext, -⟩ := methodHead?_eq_some hhead
  rcases exists_of_flatten_eq htext with hfound | ⟨xs, text, ys, hls, hparen⟩
  · exact hfound
  · exact absurd hparen (h text (by rw [hls]; simp))

/-- The method that the text may be taken for has nothing that is annotated. -/
theorem methodFacts_eq_nil (h : c.Scannable) (hwhole : ∀ l ∈ c.text, l.IsWhole) {outer : String}
    {after : List Lexeme} {following : List Char} {m : Java.Method}
    (hm : method? [] c.text after following = some m) : methodFacts outer m = [] := by
  obtain ⟨head, list, hhead, hlist, rfl⟩ := method?_eq_some hm
  obtain ⟨xs, ys, htext, hys⟩ := h head hhead
  have hinHeader := c.balanced.inHeader
  rw [htext] at hinHeader
  obtain ⟨opened, hopened⟩ := exists_inHeader_of_parenthesis hinHeader
  obtain ⟨inside, outside, hclose⟩ := exists_closing hopened (Nat.zero_le opened)
  have hlex : lex head.parameters = ys := by
    rw [← hys]
    apply lex_flatten
    intro l hl
    apply hwhole
    rw [htext]
    exact List.mem_append_right _ (List.mem_cons_of_mem _ hl)
  have hinside : list = inside := by
    rw [parameterList?, hlex, hclose] at hlist
    exact (Option.some.inj hlist).symm
  refine methodFacts_of_list fun hat ↦ c.notAnnotated ?_
  rw [htext, append_of_closing hclose, ← hinside]
  simp [hat]

theorem silent (h : c.Scannable) (hwhole : ∀ l ∈ c.text, l.IsWhole) (following : List Char) :
    Silent following (plain c.lead.chars ++ c.text) := by
  have hpeel : peelHeader (plain c.lead.chars ++ c.text) = ([], c.text) := by
    rw [peelHeader_blanks, peelHeader_of_begins c.begins]
  refine ⟨(c.lead.balanced.append c.balanced).inHeader, ?_, ?_⟩
  · rw [hpeel]
    exact typeName?_eq_none c.notType
  · intro outer after m hm
    rw [hpeel] at hm
    exact methodFacts_eq_nil h hwhole hm

end Continuation

theorem Field.silent_continuations {f : Field} (h : f.Scannable) {rest : List Lexeme}
    (hwhole : ∀ l ∈ f.continuations.flatMap Continuation.lexemes ++ rest, l.IsWhole)
    (following : List Char) :
    ∀ c ∈ f.continuations, Silent following (plain c.lead.chars ++ c.text) := by
  intro c hc
  have htext : ∀ l ∈ c.text, l.IsWhole := by
    intro l hl
    apply hwhole
    apply List.mem_append_left
    refine List.mem_flatMap.2 ⟨c, hc, ?_⟩
    simp [Continuation.lexemes, hl]
  apply Continuation.silent _ htext
  rw [continuations] at hc
  cases hinitializer : f.initializer with
  | none =>
    rw [hinitializer] at hc
    cases hc
  | some i =>
    rw [hinitializer] at hc
    exact h i hinitializer c hc

end EndpointStubs.Java.Written
