import EndpointStubs.Text.Blank
import EndpointStubs.Text.Word
import Mathlib.Data.List.TakeWhile
import Mathlib.Tactic.IntervalCases

/-!
# Runs of characters

A run ends where the first character stands that does not belong to it. Blanks
belong to no word, so that the blanks around a word are found to be there, and
blanks at the end of a type leave its compact form as it is.
-/

namespace EndpointStubs.Text

section Run

variable {α : Type} {p : α → Bool} {xs ys : List α}

theorem takeWhile_append_stop (hxs : ∀ a ∈ xs, p a = true) (hys : ∀ a ∈ ys.head?, p a = false) :
    (xs ++ ys).takeWhile p = xs := by
  have hstop : ys.takeWhile p = [] := by
    cases ys with
    | nil => rfl
    | cons y ys => rw [List.takeWhile_cons, hys y rfl]; rfl
  rw [List.takeWhile_append_of_pos hxs, hstop, List.append_nil]

theorem dropWhile_append_stop (hxs : ∀ a ∈ xs, p a = true) (hys : ∀ a ∈ ys.head?, p a = false) :
    (xs ++ ys).dropWhile p = ys := by
  rw [List.dropWhile_append_of_pos hxs]
  cases ys with
  | nil => rfl
  | cons y ys => rw [List.dropWhile_cons, hys y rfl]; rfl

theorem dropWhile_of_head (hys : ∀ a ∈ ys.head?, p a = false) : ys.dropWhile p = ys := by
  have hnil : ∀ a ∈ ([] : List α), p a = true := fun _ ha ↦ absurd ha List.not_mem_nil
  exact dropWhile_append_stop hnil hys

variable {d : α} (hd : p d = false)
include hd

theorem takeWhile_append_cons (xs ys : List α) : (xs ++ d :: ys).takeWhile p = xs.takeWhile p := by
  induction xs with
  | nil =>
    rw [List.nil_append, List.takeWhile_cons, hd]
    rfl
  | cons x xs ih => rw [List.cons_append, List.takeWhile_cons, List.takeWhile_cons, ih]

theorem dropWhile_append_cons (xs ys : List α) :
    (xs ++ d :: ys).dropWhile p = xs.dropWhile p ++ d :: ys := by
  induction xs with
  | nil =>
    rw [List.nil_append, List.dropWhile_cons, hd]
    rfl
  | cons x xs ih =>
    rw [List.cons_append, List.dropWhile_cons, List.dropWhile_cons, ih]
    split <;> rfl

end Run

/-- A text with a character is left from that character on. -/
theorem dropWhile_ne_of_mem {c : Char} {text : List Char} (h : c ∈ text) :
    text.dropWhile (· != c) = c :: (text.dropWhile (· != c)).tail := by
  have hne : text.dropWhile (· != c) ≠ [] := fun hnil ↦
    absurd (List.dropWhile_eq_nil_iff.1 hnil c h) (by rw [bne_self_eq_false]; decide)
  have hhead := List.head_dropWhile_not (· != c) hne
  rw [bne_eq_false_iff_eq] at hhead
  conv_lhs => rw [← List.cons_head_tail hne, hhead]

theorem splitTrailing_append_stop {p : Char → Bool} {xs ys : List Char}
    (hxs : ∀ c ∈ xs.getLast?, p c = false) (hys : ∀ c ∈ ys, p c = true) :
    splitTrailing p (xs ++ ys) = (xs, ys) := by
  have hrun : ∀ c ∈ ys.reverse, p c = true := fun c hc ↦ hys c (List.mem_reverse.1 hc)
  have hstop : ∀ c ∈ xs.reverse.head?, p c = false := by
    rw [List.head?_reverse]
    exact hxs
  rw [splitTrailing, List.reverse_append, takeWhile_append_stop hrun hstop,
    dropWhile_append_stop hrun hstop, List.reverse_reverse, List.reverse_reverse]

theorem isWord_eq_false_of_isBlank {c : Char} (h : isBlank c = true) : isWord c = false := by
  simp only [isBlank, Bool.or_eq_true, Bool.and_eq_true, decide_eq_true_eq, beq_iff_eq] at h
  rw [← Char.ofNat_toNat c]
  generalize c.toNat = n at h
  rcases h with (((((((((⟨_, _⟩ | ⟨_, _⟩) | rfl) | rfl) | rfl) | ⟨_, _⟩) | rfl) | rfl) | rfl) | rfl) | rfl
  · interval_cases n <;> decide +kernel
  · interval_cases n <;> decide +kernel
  · decide +kernel
  · decide +kernel
  · decide +kernel
  · interval_cases n <;> decide +kernel
  all_goals decide +kernel

theorem isBlank_eq_false_of_isWord {c : Char} (h : isWord c = true) : isBlank c = false := by
  rw [Bool.eq_false_iff]
  intro hblank
  rw [isWord_eq_false_of_isBlank hblank] at h
  exact Bool.false_ne_true h

/-- Where blanks stand first no word does. -/
theorem isWord_head_eq_false {xs : List Char} (h : xs.takeWhile isBlank ≠ []) :
    ∀ c ∈ xs.head?, isWord c = false := by
  intro c hc
  apply isWord_eq_false_of_isBlank
  obtain ⟨rest, rfl⟩ := List.head?_eq_some_iff.1 hc
  by_contra hblank
  rw [List.takeWhile_cons, if_neg hblank] at h
  exact h rfl

theorem trimStart_append_stop {xs ys : List Char} (hxs : ∀ c ∈ xs, isBlank c = true)
    (hys : ∀ c ∈ ys.head?, isBlank c = false) : trimStart (xs ++ ys) = ys :=
  dropWhile_append_stop hxs hys

theorem trimStart_eq_self {xs : List Char} (hxs : ∀ c ∈ xs.head?, isBlank c = false) :
    trimStart xs = xs :=
  dropWhile_of_head hxs

/-- Blanks are dropped up to the character that begins what follows. -/
theorem trimStart_append (xs : List Char) {ys : List Char}
    (hys : ∀ c ∈ ys.head?, isBlank c = false) : trimStart (xs ++ ys) = trimStart xs ++ ys := by
  rw [trimStart, List.dropWhile_append]
  split
  · rename_i hempty
    rw [dropWhile_of_head hys, trimStart, List.isEmpty_iff.1 hempty, List.nil_append]
  · rfl

theorem trimEnd_append_stop {xs ys : List Char} (hxs : ∀ c ∈ xs.getLast?, isBlank c = false)
    (hys : ∀ c ∈ ys, isBlank c = true) : trimEnd (xs ++ ys) = xs := by
  have hrun : ∀ c ∈ ys.reverse, isBlank c = true := fun c hc ↦ hys c (List.mem_reverse.1 hc)
  have hstop : ∀ c ∈ xs.reverse.head?, isBlank c = false := by
    rw [List.head?_reverse]
    exact hxs
  rw [trimEnd, List.reverse_append, dropWhile_append_stop hrun hstop, List.reverse_reverse]

theorem mem_of_mem_trim {c : Char} {text : List Char} (h : c ∈ trim text) : c ∈ text := by
  have hreverse := List.mem_reverse.1 h
  have hstart := List.mem_reverse.1 ((List.dropWhile_sublist _).subset hreverse)
  exact (List.dropWhile_sublist _).subset hstart

theorem collapseBlanks_of_isBlank {ys : List Char} (hys : ∀ c ∈ ys, isBlank c = true) :
    ∀ c ∈ collapseBlanks ys, isBlank c = true := by
  fun_induction collapseBlanks ys with
  | case1 => exact hys
  | case2 c =>
    intro d hd
    rw [List.mem_singleton.1 hd, if_pos (hys c List.mem_cons_self)]
    rfl
  | case3 c d rest hc hd ih => exact ih fun e he ↦ hys e (List.mem_cons_of_mem _ he)
  | case4 c d rest hc hd ih => exact absurd (hys d (by simp)) hd
  | case5 c d rest hc ih => exact absurd (hys c List.mem_cons_self) hc

/-- What follows a character that is not blank is collapsed on its own. -/
theorem collapseBlanks_append_stop {xs ys : List Char} (hne : xs ≠ [])
    (hxs : ∀ c ∈ xs.getLast?, isBlank c = false) :
    collapseBlanks (xs ++ ys) = collapseBlanks xs ++ collapseBlanks ys := by
  fun_induction collapseBlanks xs with
  | case1 => exact absurd rfl hne
  | case2 c =>
    have hc := hxs c rfl
    rw [List.singleton_append, hc]
    cases ys with
    | nil => simp [collapseBlanks, hc]
    | cons d ys => simp [collapseBlanks, hc]
  | case3 c d rest hc hd ih =>
    have hnext := ih (List.cons_ne_nil d rest) hxs
    rw [← hnext, List.cons_append, List.cons_append, collapseBlanks, if_pos hc, if_pos hd]
  | case4 c d rest hc hd ih =>
    have hnext := ih (List.cons_ne_nil d rest) hxs
    rw [List.cons_append] at hnext
    rw [List.cons_append, List.cons_append, collapseBlanks, if_pos hc, if_neg hd, hnext]
    rfl
  | case5 c d rest hc ih =>
    have hnext := ih (List.cons_ne_nil d rest) hxs
    rw [List.cons_append] at hnext
    rw [List.cons_append, List.cons_append, collapseBlanks, if_neg hc, hnext]
    rfl

theorem trimEnd_append_blanks (xs : List Char) {ys : List Char}
    (hys : ∀ c ∈ ys, isBlank c = true) : trimEnd (xs ++ ys) = trimEnd xs := by
  have hrun : ∀ c ∈ ys.reverse, isBlank c = true := fun c hc ↦ hys c (List.mem_reverse.1 hc)
  rw [trimEnd, List.reverse_append, List.dropWhile_append_of_pos hrun, trimEnd]

theorem trim_append_blanks (xs : List Char) {ys : List Char} (hys : ∀ c ∈ ys, isBlank c = true) :
    trim (xs ++ ys) = trim xs := by
  rw [trim, trimStart, List.dropWhile_append]
  split
  · rename_i hxs
    have hnil : ys.dropWhile isBlank = [] := List.dropWhile_eq_nil_iff.2 hys
    rw [hnil, trim, trimStart, List.isEmpty_iff.1 hxs]
  · rw [trimEnd_append_blanks _ hys, trim, trimStart]

theorem compact_append_blanks {xs ys : List Char} (hxs : ∀ c ∈ xs.getLast?, isBlank c = false)
    (hys : ∀ c ∈ ys, isBlank c = true) : compact (xs ++ ys) = compact xs := by
  have hcollapsed := collapseBlanks_of_isBlank hys
  cases xs with
  | nil =>
    rw [List.nil_append, compact, ← List.nil_append (collapseBlanks ys),
      trim_append_blanks [] hcollapsed]
    rfl
  | cons c xs =>
    rw [compact, collapseBlanks_append_stop (List.cons_ne_nil c xs) hxs,
      trim_append_blanks _ hcollapsed, compact]

theorem removeBlanks_cons (c : Char) (chars : List Char) : removeBlanks (c :: chars) =
    if isBlank c then removeBlanks chars else c :: removeBlanks chars := by
  rw [removeBlanks, List.filter_cons]
  cases isBlank c <;> rfl

theorem removeBlanks_eq_nil {chars : List Char} (h : ∀ c ∈ chars, isBlank c = true) :
    removeBlanks chars = [] := by
  refine List.filter_eq_nil_iff.2 fun c hc ↦ ?_
  rw [h c hc]
  exact Bool.false_ne_true

theorem removeBlanks_dropWhile (chars : List Char) :
    removeBlanks (chars.dropWhile isBlank) = removeBlanks chars := by
  have hblank := removeBlanks_eq_nil fun c hc ↦ List.mem_takeWhile_imp (l := chars) hc
  conv_rhs => rw [← List.takeWhile_append_dropWhile (p := isBlank) (l := chars)]
  rw [removeBlanks_append, hblank, List.nil_append]

theorem removeBlanks_collapseBlanks (chars : List Char) :
    removeBlanks (collapseBlanks chars) = removeBlanks chars := by
  have hspace : isBlank ' ' = true := by decide
  fun_induction collapseBlanks chars with
  | case1 => rfl
  | case2 c => cases hc : isBlank c <;> simp [removeBlanks_cons, hc, hspace]
  | case3 c d rest hc hd ih => rw [ih, removeBlanks_cons c, if_pos hc]
  | case4 c d rest hc hd ih =>
    rw [removeBlanks_cons, if_pos hspace, ih, removeBlanks_cons c, if_pos hc]
  | case5 c d rest hc ih => rw [removeBlanks_cons, if_neg hc, ih, removeBlanks_cons c, if_neg hc]

/-- Blanks are removed from the normal form of a type as from the type itself. -/
theorem removeBlanks_compact (chars : List Char) :
    removeBlanks (compact chars) = removeBlanks chars := by
  have hreverse (xs : List Char) : removeBlanks xs.reverse = (removeBlanks xs).reverse :=
    List.filter_reverse
  rw [compact, trim, trimEnd, hreverse, removeBlanks_dropWhile, hreverse,
    List.reverse_reverse, trimStart, removeBlanks_dropWhile, removeBlanks_collapseBlanks]

end EndpointStubs.Text
