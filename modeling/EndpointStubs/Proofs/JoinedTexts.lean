import EndpointStubs.Text.Pattern
import Mathlib.Data.List.Basic

/-!
# Joined texts

Pieces that do not hold the separator are found again after they are joined by
it, and each character of the joined text is one of a piece or of the separator.
-/

namespace EndpointStubs

section Separators

variable {α : Type} [DecidableEq α] {separator : α}

theorem splitAt_eq_splitOn (separator : α) (text : List α) :
    Text.splitAt separator text = text.splitOn separator := by
  induction text with
  | nil => rfl
  | cons c rest ih =>
    rw [Text.splitAt, ih, List.splitOn_cons_eq_if_modifyHead]
    by_cases hc : c = separator
    · rw [if_pos hc, if_pos (beq_iff_eq.2 hc)]
    · rw [if_neg hc, if_neg (by simpa using hc)]
      cases h : rest.splitOn separator with
      | nil => exact absurd h (List.splitOn_ne_nil _ _)
      | cons piece pieces => rfl

/-- Joined pieces are split again where they were joined. -/
theorem splitAt_intercalate {pieces : List (List α)} (h : ∀ piece ∈ pieces, separator ∉ piece)
    (hne : pieces ≠ []) : Text.splitAt separator ([separator].intercalate pieces) = pieces := by
  rw [splitAt_eq_splitOn, List.splitOn_intercalate separator h hne]

/-- The pieces hold the characters of the text but for the separator. -/
theorem mem_of_mem_splitAt {text piece : List α} (h : piece ∈ Text.splitAt separator text) :
    ∀ c ∈ piece, c ∈ text ∧ c ≠ separator := by
  induction text generalizing piece with
  | nil =>
    obtain rfl := List.mem_singleton.1 h
    nofun
  | cons c rest ih =>
    have hrest {piece : List α} (hpiece : piece ∈ Text.splitAt separator rest) :
        ∀ d ∈ piece, d ∈ c :: rest ∧ d ≠ separator :=
      fun d hd ↦ (ih hpiece d hd).imp_left (List.mem_cons_of_mem c)
    rw [Text.splitAt] at h
    split at h
    · rcases List.mem_cons.1 h with rfl | h
      · nofun
      · exact hrest h
    · rename_i hc
      cases hsplit : Text.splitAt separator rest with
      | nil => exact absurd hsplit (Text.splitAt_ne_nil separator rest)
      | cons first pieces =>
        rw [hsplit] at h hrest
        rcases List.mem_cons.1 h with rfl | h
        · intro d hd
          rcases List.mem_cons.1 hd with rfl | hd
          · exact ⟨List.mem_cons_self, hc⟩
          · exact hrest List.mem_cons_self d hd
        · exact hrest (List.mem_cons_of_mem _ h)

omit [DecidableEq α] in
theorem intercalate_append {pieces more : List (List α)} (hpieces : pieces ≠ [])
    (hmore : more ≠ []) :
    [separator].intercalate (pieces ++ more) =
      [separator].intercalate pieces ++ separator :: [separator].intercalate more := by
  induction pieces with
  | nil => exact absurd rfl hpieces
  | cons piece pieces ih =>
    cases pieces with
    | nil => simp [List.intercalate_cons_of_ne_nil hmore]
    | cons next pieces =>
      rw [List.cons_append, List.cons_append, List.intercalate_cons_cons, ← List.cons_append,
        ih (List.cons_ne_nil _ _), List.intercalate_cons_cons]
      simp only [List.append_assoc]

omit [DecidableEq α] in
theorem forall_mem_intercalate {p : α → Prop} {separator : List α} {pieces : List (List α)}
    (hseparator : ∀ a ∈ separator, p a) (h : ∀ piece ∈ pieces, ∀ a ∈ piece, p a) :
    ∀ a ∈ separator.intercalate pieces, p a := by
  induction pieces with
  | nil => exact fun a ha ↦ absurd ha List.not_mem_nil
  | cons piece pieces ih =>
    have hpiece := h piece List.mem_cons_self
    cases pieces with
    | nil => rwa [List.intercalate_singleton]
    | cons next pieces =>
      have hrest := ih fun q hq ↦ h q (List.mem_cons_of_mem _ hq)
      rw [List.intercalate_cons_cons, List.forall_mem_append, List.forall_mem_append]
      exact ⟨⟨hpiece, hseparator⟩, hrest⟩

omit [DecidableEq α] in
theorem mem_intercalate_of_mem {separator : List α} {pieces : List (List α)} {piece : List α}
    {a : α} (hpiece : piece ∈ pieces) (ha : a ∈ piece) : a ∈ separator.intercalate pieces := by
  induction pieces with
  | nil => cases hpiece
  | cons first pieces ih =>
    cases pieces with
    | nil =>
      rw [List.intercalate_singleton]
      exact List.mem_singleton.1 hpiece ▸ ha
    | cons next pieces =>
      rw [List.intercalate_cons_cons]
      rcases List.mem_cons.1 hpiece with rfl | hlater
      · simp [ha]
      · simp [ih hlater]

/-- Without the separators joined pieces are put together. -/
theorem filter_intercalate {pieces : List (List α)} (h : ∀ piece ∈ pieces, separator ∉ piece) :
    ([separator].intercalate pieces).filter (· != separator) = pieces.flatten := by
  have hpiece {piece : List α} (hmem : separator ∉ piece) :
      piece.filter (· != separator) = piece := by
    refine List.filter_eq_self.2 fun c hc ↦ ?_
    rw [bne_iff_ne]
    rintro rfl
    exact hmem hc
  induction pieces with
  | nil => rfl
  | cons piece pieces ih =>
    have hfirst := hpiece (h piece List.mem_cons_self)
    have hrest := ih fun p hp ↦ h p (List.mem_cons_of_mem _ hp)
    cases pieces with
    | nil => simpa using hfirst
    | cons next pieces =>
      rw [List.intercalate_cons_cons, List.filter_append, List.filter_append, hfirst, hrest,
        List.flatten_cons]
      simp

end Separators

end EndpointStubs
