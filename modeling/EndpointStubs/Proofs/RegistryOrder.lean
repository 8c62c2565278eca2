import EndpointStubs.Proofs.RegistryGrouping
import Mathlib.Data.List.Forall2
import Mathlib.Data.List.Nodup

/-!
# Registries up to the order of their entries

Two registries are the same up to order if they have related entries under the
same keys. Whatever sorts the entries by an order that tells the keys apart sees
the same lists, entry by entry.
-/

namespace EndpointStubs

theorem upsert_of_not_mem {κ α : Type} [DecidableEq κ] {key : κ} {entries : List (κ × α)}
    (h : key ∉ entries.map Prod.fst) (fresh : α) (f : α → α) :
    upsert key fresh f entries = entries ++ [(key, f fresh)] := by
  induction entries with
  | nil => rfl
  | cons entry rest ih =>
    obtain ⟨k, a⟩ := entry
    rw [List.map_cons, List.mem_cons, not_or] at h
    rw [upsert, if_neg (Ne.symm h.1), ih h.2, List.cons_append]

namespace Registry

variable {κ α β : Type} [DecidableEq κ]

/-- A list in which no key occurs twice is the registry made of it. -/
theorem entries_ofList {entries : List (κ × α)} (h : (entries.map Prod.fst).Nodup) :
    (ofList entries).entries = entries := by
  induction entries using List.reverseRecOn with
  | nil => rfl
  | append_singleton entries entry ih =>
    obtain ⟨key, a⟩ := entry
    rw [List.map_append, List.nodup_append] at h
    obtain ⟨hentries, -, hdisjoint⟩ := h
    have hkey : key ∉ (ofList entries).entries.map Prod.fst := by
      rw [ih hentries]
      exact fun hmem ↦ hdisjoint key hmem key (by simp) rfl
    calc
      _ = upsert key a (fun _ ↦ a) (ofList entries).entries := by
        rw [ofList, List.foldl_append]
        rfl
      _ = entries ++ [(key, a)] := by rw [upsert_of_not_mem hkey, ih hentries]

theorem get?_ofList_eq_some_iff {entries : List (κ × α)} (h : (entries.map Prod.fst).Nodup)
    {key : κ} {a : α} : (ofList entries).get? key = some a ↔ (key, a) ∈ entries := by
  rw [get?_eq_some_iff, entries_ofList h]

theorem get?_ofList_concat (entries : List (κ × α)) (entry : κ × α) (key : κ) :
    (ofList (entries ++ [entry])).get? key =
      if key = entry.1 then some entry.2 else (ofList entries).get? key := by
  rw [ofList, List.foldl_append, List.foldl_cons, List.foldl_nil, get?_insert]
  rfl

theorem mem_of_get?_ofList {entries : List (κ × α)} {key : κ} {a : α}
    (h : (ofList entries).get? key = some a) : (key, a) ∈ entries := by
  induction entries using List.reverseRecOn with
  | nil => cases h
  | append_singleton entries entry ih =>
    rw [get?_ofList_concat] at h
    split at h
    · rename_i hkey
      cases h
      rw [hkey]
      exact List.mem_append_right _ (List.mem_singleton_self _)
    · exact List.mem_append_left _ (ih h)

/-- The last entry for a key counts. -/
theorem get?_ofList_append {before after : List (κ × α)} {key : κ} {a : α}
    (h : key ∉ after.map Prod.fst) :
    (ofList (before ++ (key, a) :: after)).get? key = some a := by
  induction after using List.reverseRecOn with
  | nil => rw [get?_ofList_concat, if_pos rfl]
  | append_singleton after entry ih =>
    rw [List.map_append, List.mem_append, not_or, List.map_singleton, List.mem_singleton] at h
    rw [← List.cons_append, ← List.append_assoc, get?_ofList_concat, if_neg h.2]
    exact ih h.1

theorem eq_nil_of_ofList_eq_empty {entries : List (κ × α)} (h : ofList entries = ∅) :
    entries = [] := by
  rcases List.eq_nil_or_concat entries with hnil | ⟨before, entry, rfl⟩
  · exact hnil
  · have hget := congrArg (get? · entry.1) h
    rw [List.concat_eq_append, get?_ofList_concat, if_pos rfl, get?_empty] at hget
    cases hget

/-- The same keys with related entries, in any order. -/
def SameUpTo (R : α → β → Prop) (r : Registry κ α) (s : Registry κ β) : Prop :=
  ∀ key, Option.Rel R (r.get? key) (s.get? key)

variable {R : α → β → Prop} {r : Registry κ α} {s : Registry κ β}

namespace SameUpTo

theorem exists_right (h : r.SameUpTo R s) {key : κ} {a : α} (ha : r.get? key = some a) :
    ∃ b, s.get? key = some b ∧ R a b := by
  have hkey := h key
  rw [ha] at hkey
  generalize hb : s.get? key = found at hkey
  cases hkey with
  | some hab => exact ⟨_, rfl, hab⟩

theorem exists_left (h : r.SameUpTo R s) {key : κ} {b : β} (hb : s.get? key = some b) :
    ∃ a, r.get? key = some a ∧ R a b := by
  have hkey := h key
  rw [hb] at hkey
  generalize ha : r.get? key = found at hkey
  cases hkey with
  | some hab => exact ⟨_, rfl, hab⟩

theorem mem_keys_iff (h : r.SameUpTo R s) (key : κ) : key ∈ r.keys ↔ key ∈ s.keys := by
  rw [Registry.mem_keys_iff, Registry.mem_keys_iff, Option.isSome_iff_exists,
    Option.isSome_iff_exists]
  constructor
  · rintro ⟨a, ha⟩
    obtain ⟨b, hb, -⟩ := h.exists_right ha
    exact ⟨b, hb⟩
  · rintro ⟨b, hb⟩
    obtain ⟨a, ha, -⟩ := h.exists_left hb
    exact ⟨a, ha⟩

theorem keys_perm (h : r.SameUpTo R s) : r.keys.Perm s.keys :=
  (List.perm_ext_iff_of_nodup r.nodup_keys s.nodup_keys).2 h.mem_keys_iff

theorem exists_pairs_of_forall_mem (h : r.SameUpTo R s) {entries : List (κ × α)}
    (hentries : ∀ entry ∈ entries, entry ∈ r.entries) :
    ∃ pairs : List (κ × α × β), pairs.map (fun p ↦ (p.1, p.2.1)) = entries ∧
      ∀ p ∈ pairs, s.get? p.1 = some p.2.2 ∧ R p.2.1 p.2.2 := by
  induction entries with
  | nil => exact ⟨[], rfl, by simp⟩
  | cons entry rest ih =>
    obtain ⟨pairs, hmap, hpairs⟩ := ih fun e he ↦ hentries e (List.mem_cons_of_mem _ he)
    obtain ⟨b, hb, hab⟩ :=
      h.exists_right (get?_eq_some_iff.2 (hentries entry List.mem_cons_self))
    refine ⟨(entry.1, entry.2, b) :: pairs, by rw [List.map_cons, hmap], ?_⟩
    intro p hp
    rcases List.mem_cons.1 hp with rfl | hp
    · exact ⟨hb, hab⟩
    · exact hpairs p hp

/-- The entries of both registries side by side, in the order of the first one. -/
theorem exists_pairs (h : r.SameUpTo R s) :
    ∃ pairs : List (κ × α × β), pairs.map (fun p ↦ (p.1, p.2.1)) = r.entries ∧
      (pairs.map fun p ↦ (p.1, p.2.2)).Perm s.entries ∧ ∀ p ∈ pairs, R p.2.1 p.2.2 := by
  obtain ⟨pairs, hmap, hpairs⟩ := h.exists_pairs_of_forall_mem fun entry hentry ↦ hentry
  refine ⟨pairs, hmap, ?_, fun p hp ↦ (hpairs p hp).2⟩
  have hkeys : (pairs.map fun p ↦ (p.1, p.2.2)).map Prod.fst = r.keys := by
    rw [keys, ← hmap, List.map_map, List.map_map]
    rfl
  have hnodup : (pairs.map fun p ↦ (p.1, p.2.2)).Nodup :=
    List.Nodup.of_map Prod.fst (hkeys ▸ r.nodup_keys)
  refine (List.perm_ext_iff_of_nodup hnodup (List.Nodup.of_map _ s.nodup_keys)).2 ?_
  rintro ⟨key, b⟩
  constructor
  · intro hmem
    obtain ⟨p, hp, heq⟩ := List.mem_map.1 hmem
    cases heq
    exact get?_eq_some_iff.1 (hpairs p hp).1
  · intro hb
    obtain ⟨a, ha, -⟩ := h.exists_left (get?_eq_some_iff.2 hb)
    have hentry := get?_eq_some_iff.1 ha
    rw [← hmap] at hentry
    obtain ⟨p, hp, heq⟩ := List.mem_map.1 hentry
    cases heq
    have hsame := (hpairs p hp).1
    rw [get?_eq_some_iff.2 hb] at hsame
    exact List.mem_map.2 ⟨p, hp, by rw [Option.some.inj hsame]⟩

/-- Sorted by an order that tells the keys apart and does not tell related entries apart, the
entries correspond one by one. -/
theorem forall₂_mergeSort (h : r.SameUpTo R s) (le : κ × α → κ × α → Bool)
    (le' : κ × β → κ × β → Bool)
    (htrans : ∀ a b c, le' a b → le' b c → le' a c) (htotal : ∀ a b, le' a b || le' b a)
    (hantisymm : ∀ a ∈ s.entries, ∀ b ∈ s.entries, le' a b → le' b a → a.1 = b.1)
    (hle : ∀ (k l : κ) (a b : α) (a' b' : β), R a a' → R b b' →
      le (k, a) (l, b) = le' (k, a') (l, b')) :
    List.Forall₂ (fun x y ↦ x.1 = y.1 ∧ R x.2 y.2) (r.entries.mergeSort le)
      (s.entries.mergeSort le') := by
  obtain ⟨pairs, hleft, hright, hrel⟩ := h.exists_pairs
  let lePairs (p q : κ × α × β) : Bool := le' (p.1, p.2.2) (q.1, q.2.2)
  have hsortLeft : (pairs.mergeSort lePairs).map (fun p ↦ (p.1, p.2.1)) =
      r.entries.mergeSort le := by
    rw [← hleft]
    exact List.map_mergeSort fun p hp q hq ↦ (hle _ _ _ _ _ _ (hrel p hp) (hrel q hq)).symm
  have hsortRight : (pairs.mergeSort lePairs).map (fun p ↦ (p.1, p.2.2)) =
      s.entries.mergeSort le' := by
    rw [List.map_mergeSort (s := le') fun p _ q _ ↦ rfl]
    refine @List.Perm.eq_of_pairwise _ (fun a b ↦ le' a b) _ _ ?_
      (List.pairwise_mergeSort htrans htotal _) (List.pairwise_mergeSort htrans htotal _) ?_
    · intro a b ha hb hab hba
      rw [List.mem_mergeSort, hright.mem_iff] at ha
      rw [List.mem_mergeSort] at hb
      have hkey := hantisymm a ha b hb hab hba
      have hvalue := get?_eq_some_iff.2 ha
      rw [hkey, get?_eq_some_iff.2 (show (b.1, b.2) ∈ s.entries from hb)] at hvalue
      exact Prod.ext hkey (Option.some.inj hvalue).symm
    · exact (List.mergeSort_perm _ _).trans (hright.trans (List.mergeSort_perm _ _).symm)
  rw [← hsortLeft, ← hsortRight, List.forall₂_map_left_iff, List.forall₂_map_right_iff,
    List.forall₂_same]
  exact fun p hp ↦ ⟨rfl, hrel p (List.mem_mergeSort.1 hp)⟩

end SameUpTo

/-- Grouping permuted items gives the same keys, with permuted groups. -/
theorem sameUpTo_grouped {ι : Type} {key? : ι → Option κ} {value : List ι → α}
    {value' : List ι → β} {items others : List ι} (h : items.Perm others)
    (hvalue : ∀ key, R (value (items.filter (key? · = some key)))
      (value' (others.filter (key? · = some key)))) :
    (grouped key? value items).SameUpTo R (grouped key? value' others) := by
  intro key
  have hmem : key ∈ items.filterMap key? ↔ key ∈ others.filterMap key? :=
    (h.filterMap key?).mem_iff
  rw [get?_grouped, get?_grouped]
  split
  · rename_i hkey
    rw [if_pos (hmem.1 hkey)]
    exact .some (hvalue key)
  · rename_i hkey
    rw [if_neg (mt hmem.2 hkey)]
    exact .none

end Registry

end EndpointStubs
