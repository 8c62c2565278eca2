/-!
# Registries

A registry maps keys to entries and remembers the order in which its keys were
first used. Each key has one entry; changing an entry keeps its place, and a
new key goes to the end.
-/

namespace EndpointStubs

/-- The entries with the one for `key` changed by `f`; if there is none, `f fresh` is added last. -/
def upsert {κ α : Type} [DecidableEq κ] (key : κ) (fresh : α) (f : α → α) :
    List (κ × α) → List (κ × α)
  | [] => [(key, f fresh)]
  | (k, a) :: rest => if k = key then (k, f a) :: rest else (k, a) :: upsert key fresh f rest

theorem map_fst_upsert {κ α : Type} [DecidableEq κ] (key : κ) (fresh : α) (f : α → α)
    (entries : List (κ × α)) :
    (upsert key fresh f entries).map Prod.fst =
      if key ∈ entries.map Prod.fst then entries.map Prod.fst
      else entries.map Prod.fst ++ [key] := by
  induction entries with
  | nil => simp [upsert]
  | cons entry rest ih =>
    obtain ⟨k, a⟩ := entry
    by_cases h : k = key
    · simp [upsert, h]
    · simp only [upsert, h, if_false, List.map_cons, ih, List.mem_cons, Ne.symm h, false_or]
      split <;> simp

theorem lookup_cons_eq {κ α : Type} [DecidableEq κ] (k key : κ) (a : α) (rest : List (κ × α)) :
    ((k, a) :: rest).lookup key = if key = k then some a else rest.lookup key := by
  by_cases h : key = k
  · simp [h]
  · have hbeq : (key == k) = false := beq_false_of_ne h
    simp [List.lookup_cons, hbeq, h]

theorem lookup_upsert {κ α : Type} [DecidableEq κ] (key : κ) (fresh : α) (f : α → α)
    (entries : List (κ × α)) (k : κ) :
    (upsert key fresh f entries).lookup k =
      if k = key then some (f ((entries.lookup key).getD fresh)) else entries.lookup k := by
  induction entries with
  | nil => simp [upsert, lookup_cons_eq]
  | cons entry rest ih =>
    obtain ⟨j, a⟩ := entry
    by_cases hj : j = key
    · subst hj
      simp only [upsert, if_true, lookup_cons_eq, Option.getD_some]
      split <;> rfl
    · simp only [upsert, hj, if_false, lookup_cons_eq, ih, Ne.symm hj]
      by_cases hk : k = key
      · simp [hk, Ne.symm hj]
      · simp [hk]

theorem mem_map_fst_iff {κ α : Type} [DecidableEq κ] (key : κ) (entries : List (κ × α)) :
    key ∈ entries.map Prod.fst ↔ (entries.lookup key).isSome := by
  induction entries with
  | nil => simp
  | cons entry rest ih =>
    obtain ⟨k, a⟩ := entry
    rw [List.map_cons, List.mem_cons, ih, lookup_cons_eq]
    by_cases h : key = k <;> simp [h]

theorem lookup_map_snd {κ α β : Type} [DecidableEq κ] (f : α → β) (key : κ)
    (entries : List (κ × α)) :
    (entries.map fun (k, a) ↦ (k, f a)).lookup key = (entries.lookup key).map f := by
  induction entries with
  | nil => rfl
  | cons entry rest ih =>
    obtain ⟨k, a⟩ := entry
    rw [List.map_cons, lookup_cons_eq, lookup_cons_eq, ih]
    split <;> rfl

structure Registry (κ α : Type) where
  entries : List (κ × α)
  nodup_keys : (entries.map Prod.fst).Nodup
  deriving Repr

namespace Registry

variable {κ α β : Type}

@[ext]
theorem ext {r s : Registry κ α} (h : r.entries = s.entries) : r = s := by
  cases r; cases s; cases h; rfl

instance [DecidableEq κ] [DecidableEq α] : DecidableEq (Registry κ α) := fun r s ↦
  decidable_of_iff (r.entries = s.entries) ⟨ext, congrArg entries⟩

def empty : Registry κ α := ⟨[], List.nodup_nil⟩

instance : EmptyCollection (Registry κ α) := ⟨empty⟩

instance : Inhabited (Registry κ α) := ⟨empty⟩

def keys (r : Registry κ α) : List κ :=
  r.entries.map Prod.fst

def values (r : Registry κ α) : List α :=
  r.entries.map Prod.snd

def isEmpty (r : Registry κ α) : Bool :=
  r.entries.isEmpty

def mapValues (f : α → β) (r : Registry κ α) : Registry κ β where
  entries := r.entries.map fun (k, a) ↦ (k, f a)
  nodup_keys := by
    rw [List.map_map]
    exact r.nodup_keys

@[simp]
theorem keys_mapValues (f : α → β) (r : Registry κ α) : (r.mapValues f).keys = r.keys := by
  simp [keys, mapValues, Function.comp_def]

variable [DecidableEq κ]

def get? (r : Registry κ α) (key : κ) : Option α :=
  r.entries.lookup key

def contains (r : Registry κ α) (key : κ) : Bool :=
  r.keys.contains key

@[simp]
theorem get?_empty (key : κ) : (∅ : Registry κ α).get? key = none := rfl

theorem mem_keys_iff (r : Registry κ α) (key : κ) : key ∈ r.keys ↔ (r.get? key).isSome :=
  mem_map_fst_iff key r.entries

@[simp]
theorem get?_mapValues (f : α → β) (r : Registry κ α) (key : κ) :
    (r.mapValues f).get? key = (r.get? key).map f :=
  lookup_map_snd f key r.entries

/-- Changes the entry for `key` by `f`, starting from `fresh` if the key is new. -/
def update (r : Registry κ α) (key : κ) (fresh : α) (f : α → α) : Registry κ α where
  entries := upsert key fresh f r.entries
  nodup_keys := by
    rw [map_fst_upsert]
    split
    · exact r.nodup_keys
    · rename_i h
      refine List.nodup_append.2 ⟨r.nodup_keys, by simp, ?_⟩
      rintro a ha b hb rfl
      exact h (List.mem_singleton.1 hb ▸ ha)

/-- A key that is already there keeps its place; a new one goes to the end. -/
theorem keys_update (r : Registry κ α) (key : κ) (fresh : α) (f : α → α) :
    (r.update key fresh f).keys = if key ∈ r.keys then r.keys else r.keys ++ [key] :=
  map_fst_upsert key fresh f r.entries

theorem get?_update (r : Registry κ α) (key : κ) (fresh : α) (f : α → α) (k : κ) :
    (r.update key fresh f).get? k =
      if k = key then some (f ((r.get? key).getD fresh)) else r.get? k :=
  lookup_upsert key fresh f r.entries k

def insert (r : Registry κ α) (key : κ) (a : α) : Registry κ α :=
  r.update key a fun _ ↦ a

theorem get?_insert (r : Registry κ α) (key : κ) (a : α) (k : κ) :
    (r.insert key a).get? k = if k = key then some a else r.get? k :=
  r.get?_update key a (fun _ ↦ a) k

/-- Of two entries with one key the later one counts, at the place of the earlier one. -/
def ofList (entries : List (κ × α)) : Registry κ α :=
  entries.foldl (fun r (k, a) ↦ r.insert k a) ∅

end Registry

end EndpointStubs
