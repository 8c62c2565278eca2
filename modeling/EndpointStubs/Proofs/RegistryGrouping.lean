import EndpointStubs.Registry
import Mathlib.Data.List.Induction

/-!
# Registries read off a list

A list of items, some of which name a key, determines a registry: its keys come
in the order in which the items first name them, and the entry of a key is
computed from all items that name it. Adding an item at the end updates the one
entry it names. This is the bridge from incremental updates to a description of
the whole list.
-/

namespace EndpointStubs

/-- Each element once, at its first place. -/
theorem eraseDups_concat {κ : Type} [BEq κ] [LawfulBEq κ] (l : List κ) (k : κ) :
    (l ++ [k]).eraseDups = if k ∈ l then l.eraseDups else l.eraseDups ++ [k] := by
  rw [List.eraseDups_append]
  by_cases h : k ∈ l <;> simp [h, List.removeAll, List.eraseDups_cons]

theorem nodup_eraseDups {κ : Type} [BEq κ] [LawfulBEq κ] (l : List κ) : l.eraseDups.Nodup := by
  induction l using List.reverseRecOn with
  | nil => exact List.nodup_nil
  | append_singleton l k ih =>
    rw [eraseDups_concat]
    split
    · exact ih
    · rename_i hk
      refine List.nodup_append.2 ⟨ih, by simp, ?_⟩
      rintro a ha b hb rfl
      exact hk (List.mem_singleton.1 hb ▸ List.mem_eraseDups.1 ha)

/-- Adding the elements of a list one by one, unless they are there, keeps each once. -/
theorem foldl_addNew {κ : Type} [DecidableEq κ] (earlier later : List κ) :
    later.foldl (fun known k ↦ if known.contains k then known else known ++ [k])
      earlier.eraseDups = (earlier ++ later).eraseDups := by
  induction later generalizing earlier with
  | nil => rw [List.append_nil, List.foldl_nil]
  | cons k rest ih =>
    have hnext : (if earlier.eraseDups.contains k then earlier.eraseDups
        else earlier.eraseDups ++ [k]) = (earlier ++ [k]).eraseDups := by
      rw [eraseDups_concat]
      simp only [List.contains_iff_mem, List.mem_eraseDups]
    rw [List.foldl_cons, hnext, ih, List.append_assoc, List.singleton_append]

theorem lookup_eq_some_of_mem {κ α : Type} [DecidableEq κ] {entries : List (κ × α)} {key : κ}
    {a : α} (hnodup : (entries.map Prod.fst).Nodup) (hmem : (key, a) ∈ entries) :
    entries.lookup key = some a := by
  induction entries with
  | nil => cases hmem
  | cons entry rest ih =>
    obtain ⟨k, b⟩ := entry
    rw [List.map_cons, List.nodup_cons] at hnodup
    rw [lookup_cons_eq]
    rcases List.mem_cons.1 hmem with heq | hrest
    · cases heq
      rw [if_pos rfl]
    · have hne : key ≠ k := by
        rintro rfl
        exact hnodup.1 (List.mem_map.2 ⟨_, hrest, rfl⟩)
      rw [if_neg hne, ih hnodup.2 hrest]

theorem mem_of_lookup_eq_some {κ α : Type} [DecidableEq κ] {entries : List (κ × α)} {key : κ}
    {a : α} (h : entries.lookup key = some a) : (key, a) ∈ entries := by
  induction entries with
  | nil => cases h
  | cons entry rest ih =>
    obtain ⟨k, b⟩ := entry
    rw [lookup_cons_eq] at h
    split at h
    · rename_i hk
      cases h
      rw [hk]
      exact List.mem_cons_self
    · exact List.mem_cons_of_mem _ (ih h)

namespace Registry

variable {κ α ι : Type} [DecidableEq κ]

/-- What a registry has for a key is the entry that stands under it. -/
theorem get?_eq_some_iff {r : Registry κ α} {key : κ} {a : α} :
    r.get? key = some a ↔ (key, a) ∈ r.entries :=
  ⟨mem_of_lookup_eq_some, lookup_eq_some_of_mem r.nodup_keys⟩

theorem isEmpty_of_get?_eq_none {r : Registry κ α} (h : ∀ key, r.get? key = none) :
    r.isEmpty = true := by
  rw [isEmpty, List.isEmpty_iff, List.eq_nil_iff_forall_not_mem]
  rintro ⟨key, a⟩ hmem
  have hget := get?_eq_some_iff.2 hmem
  rw [h key] at hget
  cases hget

theorem contains_iff_mem_keys (r : Registry κ α) (key : κ) :
    r.contains key = true ↔ key ∈ r.keys := by
  rw [contains, List.contains_iff_mem]

/-- The entries are the keys, each with what the registry has for it. -/
theorem entries_eq_map_keys (r : Registry κ α) (fallback : α) :
    r.entries = r.keys.map fun key ↦ (key, (r.get? key).getD fallback) := by
  rw [keys, List.map_map]
  refine (List.map_id' r.entries).symm.trans (List.map_congr_left ?_)
  intro entry hentry
  rw [Function.comp_apply, get?_eq_some_iff.2 hentry, Option.getD_some]

theorem ext_get? {r s : Registry κ α} (hkeys : r.keys = s.keys)
    (hget : ∀ key, r.get? key = s.get? key) : r = s := by
  apply ext
  cases hr : r.entries with
  | nil =>
    have hnil : s.keys = [] := by rw [← hkeys, keys, hr, List.map_nil]
    exact (List.map_eq_nil_iff.1 hnil).symm
  | cons entry rest =>
    rw [← hr, r.entries_eq_map_keys entry.2, s.entries_eq_map_keys entry.2, hkeys]
    simp only [hget]

/-- The registry with the given keys, each once, and their values. -/
def tabulate (keys : List κ) (value : κ → α) : Registry κ α where
  entries := keys.eraseDups.map fun key ↦ (key, value key)
  nodup_keys := by
    rw [List.map_map]
    simpa only [Function.comp_def, List.map_id'] using nodup_eraseDups keys

@[simp]
theorem keys_tabulate (names : List κ) (value : κ → α) :
    (tabulate names value).keys = names.eraseDups := by
  simp only [keys, tabulate, List.map_map, Function.comp_def, List.map_id']

@[simp]
theorem get?_tabulate (names : List κ) (value : κ → α) (key : κ) :
    (tabulate names value).get? key = if key ∈ names then some (value key) else none := by
  by_cases h : key ∈ names
  · rw [if_pos h, get?_eq_some_iff]
    exact List.mem_map.2 ⟨key, List.mem_eraseDups.2 h, rfl⟩
  · have hkeys : key ∉ (tabulate names value).keys := by simpa using h
    rw [if_neg h, ← Option.not_isSome_iff_eq_none, ← mem_keys_iff]
    exact hkeys

/-- The items are grouped by the keys they name; an item that names no key is left out. -/
def grouped (key? : ι → Option κ) (value : List ι → α) (items : List ι) : Registry κ α :=
  tabulate (items.filterMap key?) fun key ↦ value (items.filter (key? · = some key))

theorem keys_grouped (key? : ι → Option κ) (value : List ι → α) (items : List ι) :
    (grouped key? value items).keys = (items.filterMap key?).eraseDups :=
  keys_tabulate _ _

theorem get?_grouped (key? : ι → Option κ) (value : List ι → α) (items : List ι) (key : κ) :
    (grouped key? value items).get? key =
      if key ∈ items.filterMap key? then some (value (items.filter (key? · = some key)))
      else none :=
  get?_tabulate _ _ _

/-- A key has an entry if some item names it, and then the value of all that do. -/
theorem get?_grouped_eq_some_iff {key? : ι → Option κ} {value : List ι → α} {items : List ι}
    {key : κ} {a : α} :
    (grouped key? value items).get? key = some a ↔
      items.filter (key? · = some key) ≠ [] ∧ value (items.filter (key? · = some key)) = a := by
  have hmem : key ∈ items.filterMap key? ↔ items.filter (key? · = some key) ≠ [] := by
    simp [List.filter_eq_nil_iff]
  rw [get?_grouped, ← hmem]
  split
  · rename_i h
    rw [Option.some.injEq]
    exact (and_iff_right h).symm
  · rename_i h
    exact ⟨nofun, fun heq ↦ absurd heq.1 h⟩

section Concat

variable {key? : ι → Option κ} {value : List ι → α}

/-- An item that names no key changes nothing. -/
theorem grouped_concat_of_none {items : List ι} {item : ι} (h : key? item = none) :
    grouped key? value (items ++ [item]) = grouped key? value items := by
  simp [grouped, h]

/-- An item that names a key is taken into the entry of that key, which starts as the value of
no items. -/
theorem grouped_concat_of_some {items : List ι} {item : ι} {key : κ} (h : key? item = some key)
    (step : α → α) (hstep : ∀ group, value (group ++ [item]) = step (value group)) :
    grouped key? value (items ++ [item]) =
      (grouped key? value items).update key (value []) step := by
  apply ext_get?
  · have hone : [item].filterMap key? = [key] := by simp [h]
    rw [keys_update, keys_grouped, keys_grouped, List.filterMap_append, hone, eraseDups_concat]
    simp only [List.mem_eraseDups]
  · intro other
    have hone : [item].filterMap key? = [key] := by simp [h]
    rw [get?_update, get?_grouped, get?_grouped, get?_grouped, List.filterMap_append, hone,
      List.filter_append]
    by_cases hother : other = key
    · subst hother
      have hgroup : [item].filter (key? · = some other) = [item] := by simp [h]
      have hnew : other ∈ items.filterMap key? ++ [other] := by simp
      rw [if_pos hnew, if_pos rfl, hgroup, hstep]
      by_cases hmem : other ∈ items.filterMap key?
      · rw [if_pos hmem, Option.getD_some]
      · have hnone : items.filter (key? · = some other) = [] := by
          refine List.filter_eq_nil_iff.2 fun x hx hkey ↦ hmem ?_
          exact List.mem_filterMap.2 ⟨x, hx, by simpa using hkey⟩
        rw [if_neg hmem, Option.getD_none, hnone]
    · have hgroup : [item].filter (key? · = some other) = [] := by simp [h, Ne.symm hother]
      rw [if_neg hother, hgroup, List.append_nil]
      simp only [List.mem_append, List.mem_singleton, hother, or_false]

end Concat

end Registry

end EndpointStubs
