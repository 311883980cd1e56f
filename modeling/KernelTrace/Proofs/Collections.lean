import KernelTrace.Query.Store

namespace KernelTrace

variable {K : Type}

theorem zipIdx_ascending (entries : List Entry) :
    entries.zipIdx.Pairwise fun a b => a.2 < b.2 := by
  rw [← List.pairwise_map, List.zipIdx_map_snd]
  exact List.pairwise_lt_range'

namespace CollectionSpec

variable [Condition K] {key : CollectionSpec K} {entries other : List Entry}

theorem mem_positions {position : Nat} :
    position ∈ key.positions entries ↔
      ∃ entry, entries[position]? = some entry ∧ key.accepts entry := by
  simp only [positions, List.mem_filterMap, Prod.exists, List.mk_mem_zipIdx_iff_getElem?]
  constructor
  · intro ⟨entry, index, found, taken⟩
    split at taken
    · rename_i accepted
      cases taken
      exact ⟨entry, found, accepted⟩
    · cases taken
  · intro ⟨entry, found, accepted⟩
    exact ⟨entry, position, found, if_pos accepted⟩

theorem positions_ascending (key : CollectionSpec K) (entries : List Entry) :
    (key.positions entries).Pairwise (· < ·) := by
  rw [positions, List.pairwise_filterMap]
  refine (zipIdx_ascending entries).imp ?_
  rintro ⟨before, i⟩ ⟨behind, j⟩ below first taken second also
  simp only [Option.ite_none_right_eq_some, Option.some.injEq] at taken also
  rw [← taken.2, ← also.2]
  exact below

theorem positions_congr (same : entries.map key.accepts = other.map key.accepts) :
    key.positions entries = key.positions other := by
  have verdicts : ∀ entries : List Entry, key.positions entries =
      (entries.map key.accepts).zipIdx.filterMap fun (accepted, position) =>
        if accepted then some position else none := by
    intro entries
    rw [List.zipIdx_map, List.filterMap_map]
    rfl
  rw [verdicts, verdicts, same]

theorem positions_eq_nil (none : ∀ entry ∈ entries, key.accepts entry = false) :
    key.positions entries = [] := by
  apply List.eq_nil_iff_forall_not_mem.mpr
  intro position member
  obtain ⟨entry, found, accepted⟩ := mem_positions.mp member
  rw [none entry (List.mem_of_getElem? found)] at accepted
  cases accepted

end CollectionSpec

namespace CollectionStore

variable {before middle after : CollectionStore K}

/-- The second store has only collections of the first, with or without their indexes. -/
def Thins (before after : CollectionStore K) : Prop :=
  ∀ collection ∈ after.collections, ∃ old ∈ before.collections,
    collection = old ∨ collection = old.reset

theorem Thins.refl (store : CollectionStore K) : store.Thins store :=
  fun collection member => ⟨collection, member, .inl rfl⟩

theorem Thins.trans (first : before.Thins middle) (second : middle.Thins after) :
    before.Thins after := by
  intro collection member
  obtain ⟨between, found, same⟩ := second collection member
  obtain ⟨old, present, before⟩ := first between found
  refine ⟨old, present, ?_⟩
  rcases same with rfl | rfl
  · exact before
  · rcases before with rfl | rfl
    · exact .inr rfl
    · exact .inr rfl

theorem thins_map (store : CollectionStore K) {change : Collection K → Collection K}
    (resets : ∀ collection, change collection = collection ∨ change collection = collection.reset) :
    store.Thins ⟨store.collections.map change⟩ := by
  intro collection member
  obtain ⟨old, present, rfl⟩ := List.mem_map.mp member
  exact ⟨old, present, resets old⟩

theorem thins_filter (store : CollectionStore K) (kept : Collection K → Bool) :
    store.Thins ⟨store.collections.filter kept⟩ :=
  fun collection member => ⟨collection, (List.mem_filter.mp member).1, .inl rfl⟩

theorem thins_resetStream (store : CollectionStore K) (handle : Handle) :
    store.Thins (store.resetStream handle) := by
  apply thins_map
  intro collection
  split
  · exact .inr rfl
  · exact .inl rfl

theorem thins_resetStreams (store : CollectionStore K) (handles : List Handle) :
    store.Thins (store.resetStreams handles) := by
  unfold resetStreams
  induction handles generalizing store with
  | nil => exact .refl store
  | cons handle handles ih => exact (thins_resetStream store handle).trans (ih _)

theorem thins_resetAll (store : CollectionStore K) : store.Thins store.resetAll :=
  thins_map store fun _ => .inr rfl

theorem thins_dropDense (store : CollectionStore K) : store.Thins store.dropDense.2 := by
  apply thins_map
  intro collection
  split
  · exact .inr rfl
  · exact .inl rfl

theorem thins_remove [DecidableEq K] {key : CollectionSpec K}
    (removed : before.remove key = .ok after) : before.Thins after := by
  unfold remove at removed
  split at removed
  · cases removed
    exact thins_filter before _
  · cases removed

theorem thins_reset [DecidableEq K] {key : CollectionSpec K}
    (reset : before.reset key = .ok after) : before.Thins after := by
  unfold CollectionStore.reset at reset
  split at reset
  · cases reset
  · rename_i collection found
    cases reset
    intro other member
    obtain ⟨old, present, rfl⟩ := List.mem_map.mp member
    split
    · exact ⟨collection, List.mem_of_find?_eq_some found, .inr rfl⟩
    · exact ⟨old, present, .inl rfl⟩

theorem resetStreams_eq_map (store : CollectionStore K) (streams : List Handle) :
    store.resetStreams streams = ⟨store.collections.map fun collection =>
      if collection.key.stream ∈ streams then collection.reset else collection⟩ := by
  induction streams generalizing store with
  | nil => simp [resetStreams]
  | cons stream streams ih =>
      have rest : store.resetStreams (stream :: streams) =
          (store.resetStream stream).resetStreams streams := rfl
      rw [rest, ih, resetStream, List.map_map]
      congr 2
      funext collection
      rw [Function.comp_apply]
      by_cases here : collection.key.stream = stream
      · have among : collection.key.stream ∈ stream :: streams := by rw [here]; exact .head streams
        rw [if_pos here, if_pos among]
        exact ite_self collection.reset
      · rw [if_neg here]
        simp only [List.mem_cons, here, false_or]

theorem resetStreams_congr {store : CollectionStore K} {streams others : List Handle}
    (same : ∀ stream, stream ∈ streams ↔ stream ∈ others) :
    store.resetStreams streams = store.resetStreams others := by
  rw [resetStreams_eq_map, resetStreams_eq_map]
  simp only [same]

variable {store : CollectionStore K} {collection : Collection K} {index : PositionIndex}

theorem valid_after_resetStream {handle : Handle}
    (member : collection ∈ (store.resetStream handle).collections)
    (valid : collection.index = some index) :
    collection ∈ store.collections ∧ collection.key.stream ≠ handle := by
  obtain ⟨old, present, rfl⟩ := List.mem_map.mp member
  split at valid
  · cases valid
  · rename_i other
    rw [if_neg other]
    exact ⟨present, other⟩

theorem valid_after_resetStreams {handles : List Handle}
    (member : collection ∈ (store.resetStreams handles).collections)
    (valid : collection.index = some index) :
    collection ∈ store.collections ∧ collection.key.stream ∉ handles := by
  induction handles generalizing store with
  | nil => exact ⟨member, List.not_mem_nil⟩
  | cons handle handles ih =>
      obtain ⟨middle, others⟩ := ih member
      obtain ⟨present, other⟩ := valid_after_resetStream middle valid
      exact ⟨present, List.not_mem_cons_of_ne_of_not_mem other others⟩

theorem index_after_resetAll (member : collection ∈ store.resetAll.collections) :
    collection.index = none := by
  obtain ⟨old, present, rfl⟩ := List.mem_map.mp member
  rfl

end CollectionStore

end KernelTrace
