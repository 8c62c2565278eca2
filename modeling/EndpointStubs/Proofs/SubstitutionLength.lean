import EndpointStubs.Proofs.Substitution

/-!
# The length of a substituted template

A template falls apart before every opening and after every closing brace, and
each part has its own pieces. Placeholders that are replaced one after the other
may merge groups, even if they hold braces or percent signs themselves; they
never leave a longer text than replacing all groups at once.
-/

namespace EndpointStubs

theorem pieces_nil : pieces [] = [] := by
  rw [pieces]

theorem pieces_cons_of_ne {c : Char} (h : c ≠ '{') (rest : List Char) :
    pieces (c :: rest) = .char c :: pieces rest := by
  rw [pieces, if_neg h]

theorem pieces_open_of_not_closed {rest : List Char}
    (h : ∀ after, rest.dropWhile (!isBrace ·) ≠ '}' :: after) :
    pieces ('{' :: rest) = .char '{' :: pieces rest := by
  rw [pieces, if_pos rfl]
  split
  · rename_i after hafter
    exact absurd hafter (h after)
  · rfl

/-- What is left of a text without its leading characters that are no braces starts with a
brace. -/
theorem dropWhile_not_isBrace_cases (rest : List Char) :
    rest.dropWhile (!isBrace ·) = [] ∨ (∃ after, rest.dropWhile (!isBrace ·) = '{' :: after) ∨
      ∃ after, rest.dropWhile (!isBrace ·) = '}' :: after := by
  cases h : rest.dropWhile (!isBrace ·) with
  | nil => exact .inl rfl
  | cons c after =>
    have hbrace : isBrace c = true := by
      have hhead := List.head_dropWhile_not (!isBrace ·) (l := rest) (by rw [h]; simp)
      simpa [h] using hhead
    rcases Bool.or_eq_true _ _ ▸ hbrace with hopen | hclose
    · exact .inr (.inl ⟨after, by rw [eq_of_beq hopen]⟩)
    · exact .inr (.inr ⟨after, by rw [eq_of_beq hclose]⟩)

theorem dropWhile_append_of_ne_nil {rest tail : List Char} {c : Char} {after : List Char}
    (h : rest.dropWhile (!isBrace ·) = c :: after) :
    (rest ++ tail).dropWhile (!isBrace ·) = c :: (after ++ tail) := by
  rw [List.dropWhile_append, h]
  rfl

theorem pieces_closed {rest after : List Char} (h : rest.dropWhile (!isBrace ·) = '}' :: after)
    (tail : List Char) :
    pieces ('{' :: (rest ++ tail)) =
      .group (rest.takeWhile (!isBrace ·)) :: pieces (after ++ tail) := by
  have hrest := takeWhile_append_of_dropWhile_eq h
  calc
    _ = pieces ('{' :: (rest.takeWhile (!isBrace ·) ++ '}' :: (after ++ tail))) := by
      rw [← List.cons_append (a := '}'), ← List.append_assoc, ← hrest]
    _ = _ := pieces_group fun _ ↦ not_isBrace_of_mem_takeWhile

theorem pieces_append_open (before tail : List Char) :
    pieces (before ++ '{' :: tail) = pieces before ++ pieces ('{' :: tail) := by
  fun_induction pieces before with
  | case1 => rfl
  | case2 rest after h ih =>
    rw [List.cons_append, pieces_closed h, ih, List.cons_append]
  | case3 rest h ih =>
    rw [List.cons_append, pieces_open_of_not_closed, ih, List.cons_append]
    intro after hafter
    rcases dropWhile_not_isBrace_cases rest with hrest | ⟨tail', hrest⟩ | ⟨tail', hrest⟩
    · rw [List.dropWhile_append, hrest] at hafter
      simp [isBrace] at hafter
    · rw [dropWhile_append_of_ne_nil hrest] at hafter
      cases hafter
    · exact h tail' hrest
  | case4 c rest hc ih =>
    rw [List.cons_append, pieces_cons_of_ne hc, ih, List.cons_append]

theorem pieces_append_group {name : List Char} (h : ∀ c ∈ name, isBrace c = false)
    (before tail : List Char) :
    pieces (before ++ '{' :: (name ++ '}' :: tail)) =
      pieces before ++ .group name :: pieces tail := by
  rw [pieces_append_open, pieces_group h]

theorem pieces_append_close (before tail : List Char) :
    pieces (before ++ '}' :: tail) = pieces (before ++ ['}']) ++ pieces tail := by
  fun_induction pieces before with
  | case1 =>
    rw [List.nil_append, List.nil_append, pieces_cons_of_ne (by decide),
      pieces_cons_of_ne (by decide), pieces_nil]
    rfl
  | case2 rest after h ih =>
    rw [List.cons_append, List.cons_append, pieces_closed h, pieces_closed h, ih, List.cons_append]
  | case3 rest h ih =>
    rcases dropWhile_not_isBrace_cases rest with hrest | ⟨after, hrest⟩ | ⟨after, hrest⟩
    · have hinside : ∀ c ∈ rest, isBrace c = false := by
        simpa using List.dropWhile_eq_nil_iff.1 hrest
      rw [List.cons_append, List.cons_append, pieces_group hinside, pieces_group hinside,
        pieces_nil]
      rfl
    · have hopen (tail : List Char) (after' : List Char) :
          (rest ++ tail).dropWhile (!isBrace ·) ≠ '}' :: after' := by
        rw [dropWhile_append_of_ne_nil hrest]
        intro hcons
        cases hcons
      rw [List.cons_append, List.cons_append, pieces_open_of_not_closed (hopen _),
        pieces_open_of_not_closed (hopen _), ih, List.cons_append]
    · exact absurd hrest (h after)
  | case4 c rest hc ih =>
    rw [List.cons_append, List.cons_append, pieces_cons_of_ne hc, pieces_cons_of_ne hc, ih,
      List.cons_append]

variable {known : List Char → Bool}

theorem substituteAtOnce_cons_of_ne {c : Char} (h : c ≠ '{') (rest : List Char) :
    substituteAtOnce known (c :: rest) = c :: substituteAtOnce known rest := by
  rw [substituteAtOnce, pieces_cons_of_ne h]
  rfl

theorem substituteAtOnce_closed {inside : List Char} (h : ∀ c ∈ inside, isBrace c = false)
    (after : List Char) :
    substituteAtOnce known ('{' :: (inside ++ '}' :: after)) =
      Piece.filled known (.group inside) ++ substituteAtOnce known after := by
  rw [substituteAtOnce, pieces_group h]
  rfl

theorem substituteAtOnce_append_of_not_mem {before : List Char} (h : '{' ∉ before)
    (rest : List Char) :
    substituteAtOnce known (before ++ rest) = before ++ substituteAtOnce known rest := by
  induction before with
  | nil => rfl
  | cons c before ih =>
    rw [List.mem_cons, not_or] at h
    rw [List.cons_append, substituteAtOnce_cons_of_ne (Ne.symm h.1), ih h.2, List.cons_append]

theorem substituteAtOnce_append_close (known : List Char → Bool) (before rest : List Char) :
    substituteAtOnce known (before ++ '}' :: rest) =
      substituteAtOnce known (before ++ ['}']) ++ substituteAtOnce known rest := by
  rw [substituteAtOnce, pieces_append_close, List.flatMap_append]
  rfl

/-- A character more makes the substituted text longer by one at most. -/
theorem length_substituteAtOnce_cons_le (c : Char) (text : List Char) :
    (substituteAtOnce known (c :: text)).length ≤ (substituteAtOnce known text).length + 1 := by
  by_cases hc : c = '{'
  · subst hc
    by_cases hclosed : ∃ after, text.dropWhile (!isBrace ·) = '}' :: after
    · obtain ⟨after, hafter⟩ := hclosed
      have hinside : ∀ c ∈ text.takeWhile (!isBrace ·), isBrace c = false := fun _ ↦
        not_isBrace_of_mem_takeWhile
      rw [takeWhile_append_of_dropWhile_eq hafter, substituteAtOnce_closed hinside,
        ← List.singleton_append (l := after), ← List.append_assoc,
        substituteAtOnce_append_of_not_mem (not_mem_closed hinside), Piece.filled]
      split <;> simp
    · have hopen : pieces ('{' :: text) = .char '{' :: pieces text :=
        pieces_open_of_not_closed fun after hafter ↦ hclosed ⟨after, hafter⟩
      rw [substituteAtOnce, hopen]
      simp [Piece.filled, substituteAtOnce]
  · rw [substituteAtOnce_cons_of_ne hc, List.length_cons]

/-- At least two characters are left of two characters. -/
theorem two_le_length_substituteAtOnce {text : List Char} (h : 2 ≤ text.length) :
    2 ≤ (substituteAtOnce known text).length := by
  have hpiece (piece : Piece) : 1 ≤ (Piece.filled known piece).length := by
    cases piece with
    | char c => exact le_refl 1
    | group name =>
      rw [Piece.filled]
      split <;> simp
  have hchars := flatMap_chars_pieces text
  rw [substituteAtOnce]
  generalize pieces text = ps at hchars
  subst hchars
  rcases ps with _ | ⟨first, _ | ⟨second, rest⟩⟩
  · simp at h
  · cases first with
    | char c => simp [Piece.chars] at h
    | group name =>
      rw [List.flatMap_singleton, Piece.filled]
      split <;> simp
  · have hfirst := hpiece first
    have hsecond := hpiece second
    simp only [List.flatMap_cons, List.length_append]
    omega

/-- Replacing one more placeholder leaves no longer text than adding it to the known groups. -/
def NoLonger (known : List Char → Bool) (name text : List Char) : Prop :=
  (substituteAtOnce known (Text.replaceAll ('{' :: name ++ ['}']) ['%', 's'] text)).length ≤
    (substituteAtOnce (fun group ↦ known group || group == name) text).length

section Step

variable {name : List Char}

/-- Two characters stand for the placeholder, and at least two are left of it otherwise. -/
theorem noLonger_placeholder {text rest : List Char}
    (hafter : Text.after? ('{' :: name ++ ['}']) text = some rest)
    (hrest : NoLonger known name rest) : NoLonger known name text := by
  have hleft : substituteAtOnce known
      (['%', 's'] ++ Text.replaceAll ('{' :: name ++ ['}']) ['%', 's'] rest) =
        ['%', 's'] ++ substituteAtOnce known
          (Text.replaceAll ('{' :: name ++ ['}']) ['%', 's'] rest) :=
    substituteAtOnce_append_of_not_mem (by decide) _
  have hright := substituteAtOnce_append_close
    (fun group ↦ known group || group == name) ('{' :: name) rest
  have htwo : 2 ≤ (substituteAtOnce (fun group ↦ known group || group == name)
      ('{' :: name ++ ['}'])).length :=
    two_le_length_substituteAtOnce (by simp)
  rw [NoLonger] at hrest
  rw [NoLonger, Text.replaceAll_of_after?_eq_some (by simp) hafter, hleft,
    Text.after?_eq_some_iff.1 hafter, List.append_assoc, List.singleton_append, hright,
    List.length_append, List.length_append]
  simp only [List.length_cons, List.length_nil]
  omega

/-- Another group is known before and after the replacement, or not at all. -/
theorem noLonger_group {inside after : List Char} (hinside : ∀ c ∈ inside, isBrace c = false)
    (hafter : Text.after? ('{' :: name ++ ['}']) ('{' :: (inside ++ '}' :: after)) = none)
    (hrest : NoLonger known name after) :
    NoLonger known name ('{' :: (inside ++ '}' :: after)) := by
  have hne : (inside == name) = false := by
    refine beq_false_of_ne ?_
    rintro rfl
    have hsome : Text.after? ('{' :: inside ++ ['}']) ('{' :: (inside ++ '}' :: after)) =
        some after := Text.after?_eq_some_iff.2 (by simp)
    rw [hsome] at hafter
    cases hafter
  have hfilled : Piece.filled known (.group inside) =
      Piece.filled (fun group ↦ known group || group == name) (.group inside) := by
    simp only [Piece.filled, hne, Bool.or_false]
  rw [NoLonger, replaceAll_closed _ hinside hafter, substituteAtOnce_closed hinside,
    substituteAtOnce_closed hinside, hfilled, List.length_append, List.length_append]
  exact Nat.add_le_add_left hrest _

/-- A brace that opens no group stays; after a replacement it may open one. -/
theorem noLonger_open {tail : List Char}
    (hopen : ∀ after, tail.dropWhile (!isBrace ·) ≠ '}' :: after)
    (hafter : Text.after? ('{' :: name ++ ['}']) ('{' :: tail) = none)
    (htail : NoLonger known name tail) : NoLonger known name ('{' :: tail) := by
  have hright (known : List Char → Bool) : (substituteAtOnce known ('{' :: tail)).length =
      (substituteAtOnce known tail).length + 1 := by
    rw [substituteAtOnce, pieces_open_of_not_closed hopen, List.flatMap_cons, List.length_append,
      Piece.filled, Nat.add_comm]
    rfl
  rw [NoLonger, Text.replaceAll_of_after?_eq_none hafter]
  calc
    _ ≤ (substituteAtOnce known
          (Text.replaceAll ('{' :: name ++ ['}']) ['%', 's'] tail)).length + 1 :=
      length_substituteAtOnce_cons_le _ _
    _ ≤ (substituteAtOnce (fun group ↦ known group || group == name) tail).length + 1 :=
      Nat.add_le_add_right htail 1
    _ = _ := (hright _).symm

theorem noLonger_char {c : Char} (hc : c ≠ '{') {tail : List Char}
    (hafter : Text.after? ('{' :: name ++ ['}']) (c :: tail) = none)
    (htail : NoLonger known name tail) : NoLonger known name (c :: tail) := by
  rw [NoLonger, Text.replaceAll_of_after?_eq_none hafter, substituteAtOnce_cons_of_ne hc,
    substituteAtOnce_cons_of_ne hc]
  exact Nat.succ_le_succ htail

end Step

/-- Whatever is in the placeholder, the text is no longer. The placeholder may reach over the pieces
of the text, so that the induction is on the length. -/
theorem noLonger (known : List Char → Bool) (name text : List Char) : NoLonger known name text := by
  induction hlength : text.length using Nat.strong_induction_on generalizing text with
  | _ n ih =>
  subst hlength
  match text with
  | [] =>
    rw [NoLonger, Text.replaceAll, substituteAtOnce, pieces_nil]
    exact Nat.zero_le _
  | c :: tail =>
    have htail := ih _ (Nat.lt_succ_self tail.length) tail rfl
    cases hafter : Text.after? ('{' :: name ++ ['}']) (c :: tail) with
    | some rest =>
      have hshorter : rest.length < (c :: tail).length := by
        rw [Text.after?_eq_some_iff.1 hafter, List.length_append]
        simp
      exact noLonger_placeholder hafter (ih _ hshorter rest rfl)
    | none =>
      by_cases hc : c = '{'
      · subst hc
        by_cases hclosed : ∃ after, tail.dropWhile (!isBrace ·) = '}' :: after
        · obtain ⟨after, hdrop⟩ := hclosed
          have hinside : ∀ c ∈ tail.takeWhile (!isBrace ·), isBrace c = false := fun _ ↦
            not_isBrace_of_mem_takeWhile
          have htext := takeWhile_append_of_dropWhile_eq hdrop
          have hshorter : after.length < ('{' :: tail).length := by
            rw [htext, List.length_cons, List.length_append, List.length_cons]
            omega
          have hrest := ih _ hshorter after rfl
          rw [htext] at hafter ⊢
          exact noLonger_group hinside hafter hrest
        · exact noLonger_open (fun after hdrop ↦ hclosed ⟨after, hdrop⟩) hafter htail
      · exact noLonger_char hc hafter htail

/-- Replacing the placeholders one after the other leaves no longer text than replacing all their
groups at once. -/
theorem length_substitutePlaceholders_le (names : List (Option String)) (text : List Char) :
    (Resource.substitutePlaceholders names text).length ≤
      (substituteAtOnce (fun group ↦ names.any fun name ↦ group == (nameText name).toList)
        text).length := by
  induction names generalizing text with
  | nil => simp [Resource.substitutePlaceholders, substituteAtOnce_none]
  | cons name names ih =>
    have hone := noLonger
      (fun group ↦ names.any fun name ↦ group == (nameText name).toList) (nameText name).toList text
    have hcomm : (fun group ↦ (names.any fun name ↦ group == (nameText name).toList) ||
        group == (nameText name).toList) =
          fun group ↦ (name :: names).any fun name ↦ group == (nameText name).toList := by
      funext group
      rw [List.any_cons, Bool.or_comm]
    rw [NoLonger, hcomm] at hone
    calc
      _ ≤ (substituteAtOnce (fun group ↦ names.any fun name ↦ group == (nameText name).toList)
            (Text.replaceAll ('{' :: (nameText name).toList ++ ['}']) ['%', 's'] text)).length :=
        ih _
      _ ≤ _ := hone

/-- Fewer known groups leave a text at least as long. -/
theorem length_substituteAtOnce_anti {known other : List Char → Bool}
    (h : ∀ group, known group = true → other group = true) (text : List Char) :
    (substituteAtOnce other text).length ≤ (substituteAtOnce known text).length := by
  unfold substituteAtOnce
  induction pieces text with
  | nil => exact le_refl 0
  | cons piece rest ih =>
    have hpiece : (Piece.filled other piece).length ≤ (Piece.filled known piece).length := by
      cases piece with
      | char c => exact le_refl 1
      | group name =>
        rw [Piece.filled, Piece.filled]
        split
        · split <;> simp
        · rename_i hother
          rw [if_neg fun hknown ↦ hother (h name hknown)]
    rw [List.flatMap_cons, List.flatMap_cons, List.length_append, List.length_append]
    exact Nat.add_le_add hpiece ih

end EndpointStubs
