import EndpointStubs.Proofs.ArgumentOrders

/-!
# Templates of text and groups

A proper template is a sequence of characters other than braces and of groups
without braces inside, empty ones included. It is read back as it was written.
Replacing the placeholders in it one after the other fills the groups with their
names and leaves the other groups as they are: percent signs in placeholders do
no harm here, as no brace is left over that a replacement could pair up with
another one.
-/

namespace EndpointStubs

/-- A character other than a brace, or a group without braces inside. -/
def Piece.IsProper : Piece → Prop
  | char c => isBrace c = false
  | group name => ∀ c ∈ name, isBrace c = false

instance (piece : Piece) : Decidable piece.IsProper :=
  match piece with
  | .char c => inferInstanceAs (Decidable (isBrace c = false))
  | .group name => decidable_of_iff (name.all (!isBrace ·) = true) (by simp [Piece.IsProper])

/-- The names of the groups, from the left. -/
def groupNames (ps : List Piece) : List (List Char) :=
  ps.filterMap Piece.name?

theorem ne_open_of_not_isBrace {c : Char} (h : isBrace c = false) : c ≠ '{' := by
  rintro rfl
  cases h

variable {ps : List Piece} (hps : ∀ piece ∈ ps, piece.IsProper)
include hps

/-- A proper template is read as the pieces it is made of. -/
theorem pieces_flatMap_chars : pieces (ps.flatMap Piece.chars) = ps := by
  induction ps with
  | nil => exact pieces_nil
  | cons piece ps ih =>
    obtain ⟨hpiece, hrest⟩ := List.forall_mem_cons.1 hps
    rw [List.flatMap_cons]
    cases piece with
    | char c =>
      rw [Piece.chars, List.singleton_append, pieces_cons_of_ne (ne_open_of_not_isBrace hpiece),
        ih hrest]
    | group name =>
      rw [Piece.chars, List.append_assoc, List.singleton_append, List.cons_append,
        pieces_group hpiece, ih hrest]

/-- One more placeholder is replaced in its own groups and nowhere else. -/
theorem replaceAll_flatMap_filled {name : List Char} (hname : ∀ c ∈ name, isBrace c = false)
    (known : List Char → Bool) :
    Text.replaceAll ('{' :: name ++ ['}']) ['%', 's'] (ps.flatMap (Piece.filled known)) =
      ps.flatMap (Piece.filled fun group ↦ known group || group == name) := by
  induction ps with
  | nil => rw [List.flatMap_nil, List.flatMap_nil, Text.replaceAll]
  | cons piece ps ih =>
    obtain ⟨hpiece, hrest⟩ := List.forall_mem_cons.1 hps
    rw [List.flatMap_cons, List.flatMap_cons, ← ih hrest]
    cases piece with
    | char c =>
      have hopen : '{' ∉ [c] := by simpa using Ne.symm (ne_open_of_not_isBrace hpiece)
      exact Text.replaceAll_append_of_not_mem hopen
    | group inside => exact replaceAll_filled_group hname hpiece known _

/-- Placeholders are replaced one after the other as if at once. -/
theorem substitutePlaceholders_flatMap_chars {keys : List (Option String)}
    (hkeys : ∀ key ∈ keys, ∀ c ∈ (nameText key).toList, isBrace c = false) :
    Resource.substitutePlaceholders keys (ps.flatMap Piece.chars) =
      ps.flatMap (Piece.filled fun group ↦ keys.any fun key ↦ group == (nameText key).toList) := by
  have hfrom (known : List Char → Bool) :
      Resource.substitutePlaceholders keys (ps.flatMap (Piece.filled known)) =
        ps.flatMap (Piece.filled fun group ↦
          known group || keys.any fun key ↦ group == (nameText key).toList) := by
    induction keys generalizing known with
    | nil => simp [Resource.substitutePlaceholders]
    | cons key keys ih =>
      obtain ⟨hkey, hrest⟩ := List.forall_mem_cons.1 hkeys
      have hnext := ih hrest fun group ↦ known group || group == (nameText key).toList
      rw [Resource.substitutePlaceholders] at hnext
      rw [Resource.substitutePlaceholders, List.foldl_cons, placeholderText,
        show "%s".toList = ['%', 's'] from rfl, replaceAll_flatMap_filled hps hkey]
      rw [show "%s".toList = ['%', 's'] from rfl] at hnext
      simpa only [List.any_cons, Bool.or_assoc] using hnext
  have hnone : Piece.filled (fun _ ↦ false) = Piece.chars := by
    funext piece
    cases piece <;> rfl
  have hall := hfrom fun _ ↦ false
  rw [hnone] at hall
  simpa only [Bool.false_or] using hall

/-- The groups that are left are those that were not filled. -/
theorem bracedGroups_flatMap_filled (known : List Char → Bool) :
    bracedGroups true (ps.flatMap (Piece.filled known)) =
      (groupNames ps).filter (!known ·) := by
  induction ps with
  | nil => rfl
  | cons piece ps ih =>
    obtain ⟨hpiece, hrest⟩ := List.forall_mem_cons.1 hps
    rw [List.flatMap_cons]
    cases piece with
    | char c =>
      have hopen : '{' ∉ [c] := by simpa using Ne.symm (ne_open_of_not_isBrace hpiece)
      rw [Piece.filled, bracedGroups_append_of_not_mem hopen, ih hrest]
      rfl
    | group name =>
      rw [groupNames, List.filterMap_cons_some (f := Piece.name?) (b := name) rfl]
      cases hknown : known name with
      | true =>
        rw [Piece.filled, if_pos hknown, bracedGroups_append_of_not_mem (by decide), ih hrest,
          List.filter_cons_of_neg (by simp [hknown])]
        rfl
      | false =>
        have hskip : ¬known name = true := by simp [hknown]
        have hgroups := ih hrest
        rw [bracedGroups_eq_filterMap_pieces] at hgroups ⊢
        rw [Piece.filled, if_neg hskip, List.append_assoc, List.singleton_append,
          List.cons_append, pieces_group hpiece,
          List.filterMap_cons_some (f := Piece.name?) (b := name) rfl,
          List.filter_cons_of_pos rfl, List.filter_cons_of_pos (by simp [hknown]), hgroups]
        rfl

/-- The groups of a proper template; those that are looked for are not empty. -/
theorem mem_bracedGroups_flatMap_chars {group : List Char} :
    group ∈ bracedGroups false (ps.flatMap Piece.chars) ↔ group ∈ groupNames ps ∧ group ≠ [] := by
  rw [bracedGroups_eq_filterMap_pieces, pieces_flatMap_chars hps, List.mem_filter]
  simp [groupNames]

end EndpointStubs
