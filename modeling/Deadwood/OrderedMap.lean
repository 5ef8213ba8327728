/-
Finite maps that remember the order in which their keys were first inserted.
-/

namespace Deadwood

/-- A finite map; `entries` lists each key once, in the order of first insertion. -/
structure OrderedMap (α β : Type) where
  entries : List (α × β) := []
  deriving Repr

namespace OrderedMap

variable {α β : Type} [DecidableEq α]

/-- The map without entries. -/
def empty : OrderedMap α β := ⟨[]⟩

/-- The value of a key. -/
def get? (map : OrderedMap α β) (key : α) : Option β :=
  (map.entries.find? fun entry => entry.1 == key).map (·.2)

/-- The keys, in the order of first insertion. -/
def keys (map : OrderedMap α β) : List α :=
  map.entries.map (·.1)

/-- Whether a key has a value. -/
def contains (map : OrderedMap α β) (key : α) : Bool :=
  map.entries.any fun entry => entry.1 == key

/-- Sets the value of a key in a list of entries: in its place if the key is there, at the end otherwise. -/
def insertEntry (key : α) (value : β) : List (α × β) → List (α × β)
  | [] => [(key, value)]
  | entry :: rest => if entry.1 == key then (key, value) :: rest else entry :: insertEntry key value rest

/-- Sets the value of a key. -/
def insert (map : OrderedMap α β) (key : α) (value : β) : OrderedMap α β :=
  ⟨insertEntry key value map.entries⟩

/-- Changes the value of a key, starting from a default. -/
def modify (map : OrderedMap α β) (key : α) (default : β) (change : β → β) : OrderedMap α β :=
  map.insert key (change ((map.get? key).getD default))

/-- The map of a list of pairs; of two pairs with one key the later counts. -/
def ofList (pairs : List (α × β)) : OrderedMap α β :=
  pairs.foldl (fun map pair => map.insert pair.1 pair.2) empty

/-- Adds all entries of a second map. -/
def union (map other : OrderedMap α β) : OrderedMap α β :=
  other.entries.foldl (fun map pair => map.insert pair.1 pair.2) map

/-! ### Look-ups and keys -/

variable {map : OrderedMap α β} {key : α} {value : β}

theorem mem_of_get? (h : map.get? key = some value) : (key, value) ∈ map.entries := by
  obtain ⟨entry, hfind, rfl⟩ := Option.map_eq_some_iff.mp h
  obtain rfl : entry.1 = key := by simpa using List.find?_some hfind
  exact List.mem_of_find?_eq_some hfind

/-- Where each key stands once, the entries are what can be looked up. -/
theorem get?_eq_some_iff (hnodup : map.keys.Nodup) : map.get? key = some value ↔ (key, value) ∈ map.entries := by
  refine ⟨mem_of_get?, fun hmem => ?_⟩
  obtain ⟨entries⟩ := map
  show (entries.find? fun entry => entry.1 == key).map (·.2) = some value
  replace hnodup : (entries.map (·.1)).Nodup := hnodup
  induction entries with
  | nil => exact absurd hmem List.not_mem_nil
  | cons entry rest ih =>
    obtain ⟨hnot, hrest⟩ := List.nodup_cons.mp hnodup
    rcases List.mem_cons.mp hmem with rfl | hmem
    · simp
    · have hkey : key ∈ rest.map (·.1) := List.mem_map_of_mem hmem
      have hne : entry.1 ≠ key := by
        rintro rfl
        exact hnot hkey
      rw [List.find?_cons_of_neg (by simpa using hne)]
      exact ih hmem hrest

theorem contains_eq_isSome (map : OrderedMap α β) (key : α) : map.contains key = (map.get? key).isSome := by
  rw [contains, get?, Option.isSome_map, List.isSome_find?]

theorem mem_keys_iff : key ∈ map.keys ↔ (map.get? key).isSome = true := by
  rw [← contains_eq_isSome, keys, contains, List.mem_map, List.any_eq_true]
  simp only [beq_iff_eq]

theorem get?_insert (map : OrderedMap α β) (key k : α) (value : β) :
    (map.insert key value).get? k = if k = key then some value else map.get? k := by
  obtain ⟨entries⟩ := map
  show ((insertEntry key value entries).find? fun entry => entry.1 == k).map (·.2) =
    if k = key then some value else (entries.find? fun entry => entry.1 == k).map (·.2)
  induction entries with
  | nil =>
    by_cases hk : k = key
    · simp [insertEntry, hk]
    · simp [insertEntry, hk, Ne.symm hk]
  | cons entry rest ih =>
    rw [insertEntry]
    by_cases hkey : entry.1 = key
    · by_cases hk : k = key
      · simp [hkey, hk]
      · simp [hkey, hk, Ne.symm hk]
    · by_cases hk : entry.1 = k
      · have hne : ¬ k = key := fun heq => hkey (hk.trans heq)
        simp [hk, hne]
      · simpa [hkey, hk] using ih

theorem keys_insert (map : OrderedMap α β) (key : α) (value : β) :
    (map.insert key value).keys = if key ∈ map.keys then map.keys else map.keys ++ [key] := by
  obtain ⟨entries⟩ := map
  show (insertEntry key value entries).map (·.1) =
    if key ∈ entries.map (·.1) then entries.map (·.1) else entries.map (·.1) ++ [key]
  induction entries with
  | nil => simp [insertEntry]
  | cons entry rest ih =>
    rw [insertEntry]
    by_cases hkey : entry.1 = key
    · simp [hkey]
    · have hbeq : ¬ (entry.1 == key) = true := by simpa using hkey
      rw [if_neg hbeq, List.map_cons, ih]
      by_cases hrest : key ∈ rest.map (·.1)
      · rw [if_pos hrest, List.map_cons, if_pos (List.mem_cons_of_mem _ hrest)]
      · have hnot : key ∉ (entry :: rest).map (·.1) := by
          rw [List.map_cons, List.mem_cons]
          exact fun h => h.elim (fun heq => hkey heq.symm) hrest
        rw [if_neg hrest, if_neg hnot, List.map_cons, List.cons_append]

theorem nodup_keys_insert (hnodup : map.keys.Nodup) (key : α) (value : β) : (map.insert key value).keys.Nodup := by
  rw [keys_insert]
  split
  · exact hnodup
  · rename_i hnew
    exact List.nodup_append.mpr ⟨hnodup, by simp, fun a ha b hb heq => hnew (List.mem_singleton.mp hb ▸ heq ▸ ha)⟩

end OrderedMap

end Deadwood
