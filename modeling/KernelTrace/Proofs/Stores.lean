import KernelTrace.Query.Store
import Mathlib.Data.List.Nodup

namespace KernelTrace.CollectionStore

variable {K : Type} {store : CollectionStore K} {collection : Collection K}
  {change : Collection K → Collection K} {key other : CollectionSpec K}

def keys (store : CollectionStore K) : List (CollectionSpec K) := store.collections.map (·.key)

theorem keys_map (keeps : ∀ collection, (change collection).key = collection.key) :
    (⟨store.collections.map change⟩ : CollectionStore K).keys = store.keys := by
  simp only [keys, List.map_map, Function.comp_def, keeps]

theorem keys_filter (kept : CollectionSpec K → Bool) :
    (⟨store.collections.filter (kept ·.key)⟩ : CollectionStore K).keys =
      store.keys.filter kept := by
  rw [keys, keys, List.filter_map]
  rfl

variable [DecidableEq K]

theorem find?_eq_none_iff : store.find? key = none ↔ key ∉ store.keys := by
  simp [find?, keys]

theorem contains_iff : store.contains key ↔ key ∈ store.keys := by
  rw [contains, Option.isSome_iff_ne_none, ne_eq, find?_eq_none_iff, not_not]

theorem remove_of_unregistered (unregistered : key ∉ store.keys) :
    store.remove key = .error .notRegistered := by
  rw [remove, if_neg (mt contains_iff.mp unregistered)]

theorem reset_of_unregistered (unregistered : key ∉ store.keys) :
    store.reset key = .error .notRegistered := by
  rw [reset, find?_eq_none_iff.mpr unregistered]

theorem key_of_find? (found : store.find? key = some collection) : collection.key = key := by
  simpa using List.find?_some found

theorem find?_of_mem (unique : store.keys.Nodup) (member : collection ∈ store.collections) :
    store.find? collection.key = some collection := by
  cases found : store.find? collection.key with
  | none => exact absurd (List.mem_map_of_mem member) (find?_eq_none_iff.mp found)
  | some first =>
      have same := List.inj_on_of_nodup_map unique (List.mem_of_find?_eq_some found) member
        (key_of_find? found)
      rw [same]

theorem find?_map (keeps : ∀ collection, (change collection).key = collection.key) :
    (⟨store.collections.map change⟩ : CollectionStore K).find? key =
      (store.find? key).map change := by
  simp only [find?, List.find?_map, Function.comp_def, keeps]

theorem find?_filter (kept : CollectionSpec K → Bool) :
    (⟨store.collections.filter (kept ·.key)⟩ : CollectionStore K).find? key =
      if kept key then store.find? key else none := by
  rw [find?, List.find?_filter, find?]
  split
  · rename_i keeps
    congr 1
    funext collection
    by_cases same : collection.key = key
    · simp [same, keeps]
    · simp [same]
  · rename_i drops
    apply List.find?_eq_none.mpr
    intro collection _
    by_cases same : collection.key = key
    · simp [same, drops]
    · simp [same]

theorem key_putChange (collection old : Collection K) :
    (if old.key = collection.key then collection else old).key = old.key := by
  split
  · rename_i same
    exact same.symm
  · rfl

theorem keys_put (collection : Collection K) : (store.put collection).keys = store.keys :=
  keys_map (key_putChange collection)

theorem find?_put (registered : collection.key ∈ store.keys) :
    (store.put collection).find? other =
      if other = collection.key then some collection else store.find? other := by
  rw [put, find?_map (key_putChange collection)]
  cases found : store.find? other with
  | none =>
      have differ : other ≠ collection.key := by
        rintro rfl
        exact find?_eq_none_iff.mp found registered
      rw [if_neg differ]
      rfl
  | some old =>
      rw [Option.map_some, key_of_find? found]
      split <;> rfl

variable [Condition K] {entries : List Entry}

theorem add_of_registered (registered : key ∈ store.keys) : store.add key entries = store := by
  rw [add, if_pos (contains_iff.mpr registered)]

theorem add_of_unregistered (unregistered : key ∉ store.keys) :
    store.add key entries = ⟨store.collections ++ [Collection.build key entries]⟩ := by
  rw [add, if_neg (mt contains_iff.mp unregistered)]

theorem find?_add (unregistered : key ∉ store.keys) :
    (store.add key entries).find? other =
      if other = key then some (Collection.build key entries) else store.find? other := by
  rw [add_of_unregistered unregistered, find?, List.find?_append]
  by_cases same : other = key
  · have missing := find?_eq_none_iff.mpr unregistered
    rw [find?] at missing
    rw [same, missing, if_pos rfl, Option.none_or]
    exact List.find?_cons_of_pos (decide_eq_true rfl)
  · have differ : ¬ key = other := fun built => same built.symm
    simp [find?, same, differ, Collection.build]

end KernelTrace.CollectionStore
