import EndpointStubs.Java.Outline

/-!
# Balanced brackets

When the readers of brackets, headers and lists find the ends they look for: a
text whose brackets of one kind are closed is read through up to the bracket
after it, a text without a semicolon or a brace outside its parentheses belongs
to one header, and a text without a comma outside its brackets is one piece of a
list.
-/

namespace EndpointStubs.Java

/-- Each bracket that closes was opened before, and `depth` more are closed than are opened. -/
def Closed (opener closer : Char) (depth : Nat) : List Lexeme → Prop
  | [] => depth = 0
  | l :: rest =>
    if l = .char closer then 0 < depth ∧ Closed opener closer (depth - 1) rest
    else Closed opener closer (if l = .char opener then depth + 1 else depth) rest

instance decidableClosed (opener closer : Char) :
    (depth : Nat) → (ls : List Lexeme) → Decidable (Closed opener closer depth ls)
  | depth, [] => inferInstanceAs (Decidable (depth = 0))
  | _, l :: rest =>
    have := fun depth ↦ decidableClosed opener closer depth rest
    inferInstanceAs (Decidable (if l = .char closer then _ else _))

section Closed

variable {opener closer : Char} {xs ys : List Lexeme}

/-- Closed brackets change nothing in the search for a bracket behind them. -/
theorem closing_append_of_closed {k : Nat} (h : Closed opener closer k xs) (depth : Nat)
    (ys : List Lexeme) : closing opener closer (k + depth) (xs ++ ys) =
      (closing opener closer depth ys).map fun (inside, after) ↦ (xs ++ inside, after) := by
  induction xs generalizing k with
  | nil =>
    rw [Closed] at h
    simp [h]
  | cons l xs ih =>
    rw [Closed] at h
    rw [List.cons_append, closing]
    split at h
    · rename_i hl
      have hpos : k + depth ≠ 0 := by omega
      have hsub : k + depth - 1 = k - 1 + depth := by omega
      rw [if_pos hl, if_neg hpos, hsub, ih h.2, Option.map_map]
      rfl
    · rename_i hl
      have hdepth : (if l = .char opener then k + depth + 1 else k + depth) =
          (if l = .char opener then k + 1 else k) + depth := by
        split <;> omega
      rw [if_neg hl, hdepth, ih h, Option.map_map]
      rfl

theorem closing_of_closed {depth : Nat} (h : Closed opener closer depth xs) (after : List Lexeme) :
    closing opener closer depth (xs ++ .char closer :: after) = some (xs, after) := by
  have hclose := closing_append_of_closed h 0 (.char closer :: after)
  rw [closing, if_pos rfl, if_pos rfl, Nat.add_zero] at hclose
  simpa using hclose

theorem closed_append {k depth : Nat} (h : Closed opener closer k xs) :
    Closed opener closer (k + depth) (xs ++ ys) ↔ Closed opener closer depth ys := by
  induction xs generalizing k with
  | nil =>
    rw [Closed] at h
    rw [h, Nat.zero_add, List.nil_append]
  | cons l xs ih =>
    rw [Closed] at h
    rw [List.cons_append, Closed]
    split at h
    · rename_i hl
      have hpos : 0 < k + depth := by omega
      have hsub : k + depth - 1 = k - 1 + depth := by omega
      rw [if_pos hl, hsub, ih h.2]
      exact and_iff_right hpos
    · rename_i hl
      rw [if_neg hl, ← ih h]
      split
      · rw [Nat.add_right_comm]
      · rfl

theorem closed_append_zero (h : Closed opener closer 0 xs) (hys : Closed opener closer 0 ys) :
    Closed opener closer 0 (xs ++ ys) := by
  have happend : Closed opener closer (0 + 0) (xs ++ ys) := (closed_append h).2 hys
  exact happend

/-- Text between brackets is closed if what is inside is. -/
theorem closed_bracketed (hne : opener ≠ closer) (h : Closed opener closer 0 xs)
    (hys : Closed opener closer 0 ys) :
    Closed opener closer 0 (.char opener :: (xs ++ .char closer :: ys)) := by
  have hopen : Lexeme.char opener ≠ .char closer := fun heq ↦ hne (Lexeme.char.inj heq)
  rw [Closed, if_neg hopen, if_pos rfl]
  refine (closed_append h).2 ?_
  rw [Closed, if_pos rfl]
  exact ⟨Nat.one_pos, hys⟩

theorem closed_of_forall_ne (h : ∀ l ∈ xs, l ≠ .char opener ∧ l ≠ .char closer) :
    Closed opener closer 0 xs := by
  induction xs with
  | nil => rfl
  | cons l xs ih =>
    obtain ⟨hopen, hclose⟩ := h l List.mem_cons_self
    rw [Closed, if_neg hclose, if_neg hopen]
    exact ih fun m hm ↦ h m (List.mem_cons_of_mem _ hm)

end Closed

/-- The text belongs to one header: its parentheses, of which `depth` are open at the start, are
closed, and outside of them stands no semicolon and no opening brace. -/
def InHeader (depth : Nat) : List Lexeme → Prop
  | [] => depth = 0
  | l :: rest =>
    if l = .char '(' then InHeader (depth + 1) rest
    else if l = .char ')' then 0 < depth ∧ InHeader (depth - 1) rest
    else (depth = 0 → l ≠ .char ';' ∧ l ≠ .char '{') ∧ InHeader depth rest

instance decidableInHeader :
    (depth : Nat) → (ls : List Lexeme) → Decidable (InHeader depth ls)
  | depth, [] => inferInstanceAs (Decidable (depth = 0))
  | _, l :: rest =>
    have := fun depth ↦ decidableInHeader depth rest
    inferInstanceAs (Decidable (if l = .char '(' then _ else _))

section Header

variable {xs ys : List Lexeme}

theorem nextHeader?_append {depth : Nat} (h : InHeader depth xs) (ys : List Lexeme) :
    nextHeader? depth (xs ++ ys) =
      (nextHeader? 0 ys).map fun (header, hasBlock, after) ↦ (xs ++ header, hasBlock, after) := by
  induction xs generalizing depth with
  | nil =>
    rw [InHeader] at h
    simp [h]
  | cons l xs ih =>
    rw [InHeader] at h
    rw [List.cons_append, nextHeader?]
    split at h
    · rename_i hl
      have hnext := ih h
      simp only [hl, Lexeme.char.injEq, Char.reduceEq, and_false, if_false, if_true,
        ← Int.natCast_succ] at hnext ⊢
      rw [hnext, Option.map_map]
      rfl
    · split at h
      · rename_i hl
        have hnext := ih h.2
        have hdepth : ((depth : Int) - 1) = ((depth - 1 : Nat) : Int) := by omega
        simp only [hl, Lexeme.char.injEq, Char.reduceEq, and_false, if_false, if_true, hdepth]
        rw [hnext, Option.map_map]
        rfl
      · rename_i hopen hclose
        have hnext := ih h.2
        have hsemicolon : ¬((depth : Int) = 0 ∧ l = .char ';') := by
          rintro ⟨hdepth, hl⟩
          exact (h.1 (by omega)).1 hl
        have hbrace : ¬((depth : Int) = 0 ∧ l = .char '{') := by
          rintro ⟨hdepth, hl⟩
          exact (h.1 (by omega)).2 hl
        simp only [hopen, hclose, hsemicolon, hbrace, if_false]
        rw [hnext, Option.map_map]
        rfl

theorem inHeader_append {depth : Nat} (h : InHeader depth xs) (hys : InHeader 0 ys) :
    InHeader depth (xs ++ ys) := by
  induction xs generalizing depth with
  | nil =>
    rw [InHeader] at h
    rwa [h]
  | cons l xs ih =>
    rw [InHeader] at h
    rw [List.cons_append, InHeader]
    split at h
    · rename_i hl
      rw [if_pos hl]
      exact ih h
    · rename_i hl
      rw [if_neg hl]
      split at h
      · rename_i hl
        rw [if_pos hl]
        exact ⟨h.1, ih h.2⟩
      · rename_i hl
        rw [if_neg hl]
        exact ⟨h.1, ih h.2⟩

/-- Closed parentheses may hold anything. -/
theorem inHeader_of_closed {depth : Nat} (h : Closed '(' ')' depth xs) (hys : InHeader 0 ys) :
    InHeader (depth + 1) (xs ++ .char ')' :: ys) := by
  induction xs generalizing depth with
  | nil =>
    rw [Closed] at h
    rw [List.nil_append, InHeader, if_neg (by decide), if_pos rfl, h]
    exact ⟨Nat.one_pos, hys⟩
  | cons l xs ih =>
    rw [Closed] at h
    rw [List.cons_append, InHeader]
    split at h
    · rename_i hl
      have hopen : l ≠ .char '(' := by
        rw [hl]
        decide
      have hnext := ih h.2
      have hdepth : depth - 1 + 1 = depth + 1 - 1 := by omega
      rw [if_neg hopen, if_pos hl, ← hdepth]
      exact ⟨Nat.succ_pos depth, hnext⟩
    · rename_i hl
      split at h
      · rename_i hopen
        rw [if_pos hopen]
        exact ih h
      · rename_i hopen
        rw [if_neg hopen, if_neg hl]
        exact ⟨fun hzero ↦ absurd hzero (Nat.succ_ne_zero depth), ih h⟩

theorem inHeader_parenthesized (h : Closed '(' ')' 0 xs) (hys : InHeader 0 ys) :
    InHeader 0 (.char '(' :: (xs ++ .char ')' :: ys)) := by
  rw [InHeader, if_pos rfl]
  exact inHeader_of_closed h hys

theorem inHeader_of_forall_ne (h : ∀ l ∈ xs, l ≠ .char '(' ∧ l ≠ .char ')' ∧ l ≠ .char ';' ∧
    l ≠ .char '{') : InHeader 0 xs := by
  induction xs with
  | nil => rfl
  | cons l xs ih =>
    obtain ⟨hopen, hclose, hends⟩ := h l List.mem_cons_self
    rw [InHeader, if_neg hopen, if_neg hclose]
    exact ⟨fun _ ↦ hends, ih fun m hm ↦ h m (List.mem_cons_of_mem _ hm)⟩

theorem closed_of_inHeader {depth : Nat} (h : InHeader depth xs) : Closed '(' ')' depth xs := by
  induction xs generalizing depth with
  | nil => exact h
  | cons l xs ih =>
    rw [InHeader] at h
    rw [Closed]
    split at h
    · rename_i hl
      rw [if_neg (by rw [hl]; decide), if_pos hl]
      exact ih h
    · rename_i hopen
      split at h
      · rename_i hclose
        rw [if_pos hclose]
        exact ⟨h.1, ih h.2⟩
      · rename_i hclose
        rw [if_neg hclose, if_neg hopen]
        exact ih h.2

theorem nextHeader?_semicolon (h : InHeader 0 xs) (after : List Lexeme) :
    nextHeader? 0 (xs ++ .char ';' :: after) = some (xs, false, after) := by
  have hnext := nextHeader?_append h (.char ';' :: after)
  rw [nextHeader?, if_pos ⟨rfl, rfl⟩] at hnext
  simpa using hnext

theorem nextHeader?_brace (h : InHeader 0 xs) (after : List Lexeme) :
    nextHeader? 0 (xs ++ .char '{' :: after) = some (xs, true, after) := by
  have hnext := nextHeader?_append h (.char '{' :: after)
  rw [nextHeader?, if_neg (by decide), if_pos ⟨rfl, rfl⟩] at hnext
  simpa using hnext

/-- Without a semicolon or a brace there is no header. -/
theorem nextHeader?_eq_none (h : InHeader 0 xs) : nextHeader? 0 xs = none := by
  have hnext := nextHeader?_append h []
  rw [List.append_nil, nextHeader?, Option.map_none] at hnext
  exact hnext

end Header

/-- The text belongs to one header, and its braces are closed. -/
structure Balanced (ls : List Lexeme) : Prop where
  inHeader : InHeader 0 ls
  braces : Closed '{' '}' 0 ls

section Balanced

variable {xs ys : List Lexeme}

theorem Balanced.parens (h : Balanced xs) : Closed '(' ')' 0 xs :=
  closed_of_inHeader h.inHeader

theorem Balanced.append (h : Balanced xs) (hys : Balanced ys) : Balanced (xs ++ ys) :=
  ⟨inHeader_append h.inHeader hys.inHeader, closed_append_zero h.braces hys.braces⟩

theorem balanced_parenthesized (hparens : Closed '(' ')' 0 xs) (hbraces : Closed '{' '}' 0 xs)
    (hys : Balanced ys) : Balanced (.char '(' :: (xs ++ .char ')' :: ys)) := by
  refine ⟨inHeader_parenthesized hparens hys.inHeader, ?_⟩
  have hclose : Closed '{' '}' 0 (.char ')' :: ys) := by
    rw [Closed, if_neg (by decide), if_neg (by decide)]
    exact hys.braces
  rw [Closed, if_neg (by decide), if_neg (by decide)]
  exact closed_append_zero hbraces hclose

theorem balanced_of_forall_not_mem
    (h : ∀ l ∈ xs, l ∉ ['(', ')', '{', '}', ';'].map Lexeme.char) : Balanced xs := by
  constructor
  · apply inHeader_of_forall_ne
    intro l hl
    have hnot := h l hl
    simp only [List.map_cons, List.map_nil, List.mem_cons, not_or] at hnot
    exact ⟨hnot.1, hnot.2.1, hnot.2.2.2.2.1, hnot.2.2.1⟩
  · apply closed_of_forall_ne
    intro l hl
    have hnot := h l hl
    simp only [List.map_cons, List.map_nil, List.mem_cons, not_or] at hnot
    exact ⟨hnot.2.2.1, hnot.2.2.2.1⟩

end Balanced

/-! ## Lists -/

/-- By how much a lexeme changes the depth in a list. -/
def level (l : Lexeme) : Int :=
  if l.is isOpening then 1 else if l.is isClosing then -1 else 0

def levels : List Lexeme → Int
  | [] => 0
  | l :: rest => level l + levels rest

/-- No comma stands at depth zero, if the text starts at the given depth. -/
def NoSplit (depth : Int) : List Lexeme → Prop
  | [] => True
  | l :: rest => ¬(l = .char ',' ∧ depth = 0) ∧ NoSplit (depth + level l) rest

instance decidableNoSplit : (depth : Int) → (ls : List Lexeme) → Decidable (NoSplit depth ls)
  | _, [] => inferInstanceAs (Decidable True)
  | depth, l :: rest =>
    have := decidableNoSplit (depth + level l) rest
    inferInstanceAs (Decidable (_ ∧ _))

theorem commaPieces_cons_of_not {depth : Int} {l : Lexeme} (h : ¬(l = .char ',' ∧ depth = 0))
    (rest : List Lexeme) {piece : List Lexeme} {pieces : List (List Lexeme)}
    (hrest : commaPieces (depth + level l) rest = piece :: pieces) :
    commaPieces depth (l :: rest) = (l :: piece) :: pieces := by
  have hlevel : (if l.is isOpening then depth + 1 else if l.is isClosing then depth - 1
      else depth) = depth + level l := by
    rw [level]
    split
    · rfl
    · split <;> omega
  rw [commaPieces, if_neg h, hlevel, hrest]

theorem commaPieces_eq_singleton {depth : Int} {xs : List Lexeme} (h : NoSplit depth xs) :
    commaPieces depth xs = [xs] := by
  induction xs generalizing depth with
  | nil => rfl
  | cons l xs ih => exact commaPieces_cons_of_not h.1 xs (ih h.2)

/-- A comma at depth zero ends a piece. -/
theorem commaPieces_append_comma {depth : Int} {xs : List Lexeme} (h : NoSplit depth xs)
    (hlevels : depth + levels xs = 0) (ys : List Lexeme) :
    commaPieces depth (xs ++ .char ',' :: ys) = xs :: commaPieces 0 ys := by
  induction xs generalizing depth with
  | nil =>
    have hdepth : depth = 0 := by simpa [levels] using hlevels
    rw [hdepth, List.nil_append, commaPieces, if_pos ⟨rfl, rfl⟩]
  | cons l xs ih =>
    rw [levels, ← Int.add_assoc] at hlevels
    have hnext := ih h.2 hlevels
    exact commaPieces_cons_of_not h.1 _ hnext

theorem noSplit_of_commaPieces {depth : Int} {xs piece : List Lexeme}
    (h : commaPieces depth xs = [piece]) : NoSplit depth xs := by
  induction xs generalizing depth piece with
  | nil => trivial
  | cons l xs ih =>
    obtain ⟨first, pieces, hrest⟩ :=
      List.exists_cons_of_ne_nil (commaPieces_ne_nil (depth + level l) xs)
    by_cases hcomma : l = .char ',' ∧ depth = 0
    · rw [commaPieces, if_pos hcomma] at h
      exact absurd (List.cons.inj h).2 (commaPieces_ne_nil depth xs)
    · rw [commaPieces_cons_of_not hcomma xs hrest] at h
      have hnil := (List.cons.inj h).2
      rw [hnil] at hrest
      exact ⟨hcomma, ih hrest⟩

/-- A piece ends at a comma only if that comma is at depth zero. -/
theorem noSplit_of_commaPieces_comma {depth : Int} {xs ys : List Lexeme}
    {pieces : List (List Lexeme)} (h : commaPieces depth (xs ++ .char ',' :: ys) = xs :: pieces) :
    NoSplit depth xs ∧ depth + levels xs = 0 := by
  induction xs generalizing depth with
  | nil =>
    refine ⟨trivial, ?_⟩
    by_cases hdepth : depth = 0
    · rw [hdepth]
      rfl
    · have hnot : ¬ (Lexeme.char ',' = .char ',' ∧ depth = 0) := fun hand ↦ hdepth hand.2
      obtain ⟨first, others, hrest⟩ :=
        List.exists_cons_of_ne_nil (commaPieces_ne_nil (depth + level (.char ',')) ys)
      rw [List.nil_append, commaPieces_cons_of_not hnot ys hrest] at h
      exact absurd (List.cons.inj h).1 (List.cons_ne_nil _ _)
  | cons l xs ih =>
    obtain ⟨first, others, hrest⟩ :=
      List.exists_cons_of_ne_nil (commaPieces_ne_nil (depth + level l) (xs ++ .char ',' :: ys))
    by_cases hcomma : l = .char ',' ∧ depth = 0
    · rw [List.cons_append, commaPieces, if_pos hcomma] at h
      exact absurd (List.cons.inj h).1 (List.cons_ne_nil l xs).symm
    · rw [List.cons_append, commaPieces_cons_of_not hcomma _ hrest] at h
      obtain ⟨hfirst, hothers⟩ := List.cons.inj h
      rw [(List.cons.inj hfirst).2, hothers] at hrest
      obtain ⟨hsplit, hlevels⟩ := ih hrest
      refine ⟨⟨hcomma, hsplit⟩, ?_⟩
      rw [levels, ← Int.add_assoc, hlevels]

theorem levels_append (xs ys : List Lexeme) : levels (xs ++ ys) = levels xs + levels ys := by
  induction xs with
  | nil => rw [List.nil_append, levels, Int.zero_add]
  | cons l xs ih => rw [List.cons_append, levels, levels, ih, Int.add_assoc]

theorem noSplit_append {depth : Int} {xs ys : List Lexeme} :
    NoSplit depth (xs ++ ys) ↔ NoSplit depth xs ∧ NoSplit (depth + levels xs) ys := by
  induction xs generalizing depth with
  | nil => simp [NoSplit, levels]
  | cons l xs ih =>
    have hdepth : depth + level l + levels xs = depth + levels (l :: xs) := by
      rw [levels, Int.add_assoc]
    rw [List.cons_append, NoSplit, ih, NoSplit, and_assoc, hdepth]

/-- A text without commas and brackets stays in its piece of the list. -/
theorem noSplit_of_forall {xs : List Lexeme} (h : ∀ l ∈ xs, l ≠ .char ',') (depth : Int) :
    NoSplit depth xs := by
  induction xs generalizing depth with
  | nil => trivial
  | cons l xs ih =>
    exact ⟨fun hcomma ↦ h l List.mem_cons_self hcomma.1,
      ih (fun m hm ↦ h m (List.mem_cons_of_mem _ hm)) _⟩

theorem levels_eq_zero {xs : List Lexeme} (h : ∀ l ∈ xs, level l = 0) : levels xs = 0 := by
  induction xs with
  | nil => rfl
  | cons l xs ih =>
    rw [levels, h l List.mem_cons_self, ih fun m hm ↦ h m (List.mem_cons_of_mem _ hm),
      Int.add_zero]

theorem mem_of_mem_commaPieces {depth : Int} {xs piece : List Lexeme} {l : Lexeme}
    (hpiece : piece ∈ commaPieces depth xs) (hl : l ∈ piece) : l ∈ xs := by
  induction xs generalizing depth piece with
  | nil =>
    rw [commaPieces, List.mem_singleton] at hpiece
    rwa [hpiece] at hl
  | cons m xs ih =>
    rw [commaPieces] at hpiece
    split at hpiece
    · rcases List.mem_cons.1 hpiece with rfl | hpiece
      · cases hl
      · exact List.mem_cons_of_mem _ (ih hpiece hl)
    · dsimp only at hpiece
      split at hpiece
      · rw [List.mem_singleton.1 hpiece, List.mem_singleton] at hl
        rw [hl]
        exact List.mem_cons_self
      · rename_i first pieces hrest
        rcases List.mem_cons.1 hpiece with rfl | hpiece
        · rcases List.mem_cons.1 hl with rfl | hl
          · exact List.mem_cons_self
          · exact List.mem_cons_of_mem _ (ih (hrest ▸ List.mem_cons_self) hl)
        · exact List.mem_cons_of_mem _ (ih (hrest ▸ List.mem_cons_of_mem _ hpiece) hl)

end EndpointStubs.Java
