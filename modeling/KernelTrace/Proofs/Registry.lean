import KernelTrace.Proofs.Steps
import KernelTrace.Registry
import Mathlib.Data.List.Basic

namespace KernelTrace.Registry

variable {S : Type} {registry : Registry S} {handle other : Handle} {stream : Stream S}
  {change : Stream S → Stream S}

/-- Every open stream carries the handle that its slot and the generation there spell. -/
def Coherent (registry : Registry S) : Prop :=
  ∀ (index : Nat) (slot : Slot S) (stream : Stream S),
    registry.slots[index]? = some slot → slot.stream = some stream →
      index < maxSlots ∧ stream.handle = ⟨UInt16.ofNat index, slot.generation⟩

theorem find?_eq_some :
    registry.find? handle = some stream ↔
      registry.slots[handle.slot.toNat]? = some ⟨handle.generation, some stream⟩ := by
  unfold find?
  cases found : registry.slots[handle.slot.toNat]? with
  | none => simp
  | some slot =>
      obtain ⟨generation, content⟩ := slot
      by_cases same : generation = handle.generation
      · simp [same]
      · simp [same]

theorem get_eq_ok : registry.get handle = .ok stream ↔ registry.find? handle = some stream := by
  unfold get
  cases registry.find? handle <;> simp

theorem slot_lt (handle : Handle) : handle.slot.toNat < maxSlots := handle.slot.toNat_lt

theorem slot_of_handle (handle : Handle) : UInt16.ofNat handle.slot.toNat = handle.slot :=
  UInt16.ofNat_toNat

theorem Coherent.handle_of_find? (coherent : registry.Coherent)
    (found : registry.find? handle = some stream) : stream.handle = handle := by
  have placed := find?_eq_some.mp found
  rw [(coherent _ _ _ placed rfl).2, slot_of_handle]

theorem Coherent.find?_of_slot (coherent : registry.Coherent) {index : Nat} {slot : Slot S}
    (placed : registry.slots[index]? = some slot) (opened : slot.stream = some stream) :
    registry.find? stream.handle = some stream := by
  obtain ⟨bound, named⟩ := coherent index slot stream placed opened
  have back : (UInt16.ofNat index).toNat = index := UInt16.toNat_ofNat_of_lt' bound
  rw [find?_eq_some, named, back, placed, ← opened]

theorem mem_streams_of_find? (found : registry.find? handle = some stream) :
    stream ∈ registry.streams :=
  List.mem_filterMap.mpr ⟨_, List.mem_of_getElem? (find?_eq_some.mp found), rfl⟩

theorem Coherent.mem_streams (coherent : registry.Coherent) :
    stream ∈ registry.streams ↔ registry.find? stream.handle = some stream := by
  constructor
  · intro member
    obtain ⟨slot, present, opened⟩ := List.mem_filterMap.mp member
    obtain ⟨index, placed⟩ := List.getElem?_of_mem present
    exact coherent.find?_of_slot placed opened
  · exact mem_streams_of_find?

theorem Coherent.mem_handles (coherent : registry.Coherent) :
    handle ∈ registry.handles ↔ ∃ stream, registry.find? handle = some stream := by
  rw [handles, List.mem_map]
  constructor
  · intro ⟨stream, member, named⟩
    rw [coherent.mem_streams, named] at member
    exact ⟨stream, member⟩
  · intro ⟨stream, found⟩
    have named := coherent.handle_of_find? found
    refine ⟨stream, ?_, named⟩
    rw [coherent.mem_streams, named, found]

theorem Coherent.handles_ascending (coherent : registry.Coherent) :
    registry.handles.Pairwise fun a b => a.slot < b.slot := by
  rw [handles, List.pairwise_map, streams, List.pairwise_filterMap, List.pairwise_iff_getElem]
  intro i j iBound jBound below first here second there
  have named := (coherent i _ first (List.getElem?_eq_getElem iBound) here).2
  obtain ⟨bound, alsoNamed⟩ := coherent j _ second (List.getElem?_eq_getElem jBound) there
  rw [named, alsoNamed, UInt16.lt_iff_toNat_lt, UInt16.toNat_ofNat_of_lt' bound,
    UInt16.toNat_ofNat_of_lt' (Nat.lt_trans below bound)]
  exact below

theorem Coherent.handles_nodup (coherent : registry.Coherent) : registry.handles.Nodup := by
  refine coherent.handles_ascending.imp ?_
  intro a b below same
  rw [same] at below
  exact absurd below (UInt16.lt_irrefl _)

theorem find?_modify (change : Stream S → Stream S) :
    (registry.modify handle change).find? handle = (registry.find? handle).map change := by
  unfold modify
  cases found : registry.find? handle with
  | none => rw [found]; rfl
  | some stream =>
      have placed := find?_eq_some.mp found
      have bound := (List.getElem?_eq_some_iff.mp placed).1
      rw [Option.map_some, find?_eq_some]
      simp [bound]

theorem find?_set_of_ne {slot : Slot S} (found : registry.find? handle = some stream)
    (differ : other ≠ handle)
    (fits : slot.stream = none ∨ slot.generation = handle.generation) :
    ({ registry with slots := registry.slots.set handle.slot.toNat slot } : Registry S).find? other =
      registry.find? other := by
  by_cases slots : other.slot = handle.slot
  · -- one slot under two generations: neither before nor after does the other handle find it
    have generations : handle.generation ≠ other.generation := by
      intro same
      exact differ (by cases other; cases handle; simp_all)
    obtain ⟨bound, here⟩ := List.getElem?_eq_some_iff.mp (find?_eq_some.mp found)
    rcases fits with vacant | same
    · simp [find?, slots, bound, here, generations, vacant]
    · simp [find?, slots, bound, here, generations, same]
  · have apart : handle.slot.toNat ≠ other.slot.toNat := by
      intro same
      exact slots (UInt16.toNat_inj.mp same.symm)
    simp [find?, apart]

theorem find?_modify_of_ne (differ : other ≠ handle) :
    (registry.modify handle change).find? other = registry.find? other := by
  unfold modify
  cases found : registry.find? handle with
  | none => rfl
  | some stream => exact find?_set_of_ne found differ (.inr rfl)

theorem find?_erase_of_ne {after : Registry S} (differ : other ≠ handle)
    (erased : registry.erase handle = .ok (stream, after)) :
    after.find? other = registry.find? other := by
  obtain ⟨closed, got, made⟩ := map_eq_ok.mp erased
  obtain ⟨_, rfl⟩ := Prod.mk.inj made
  exact find?_set_of_ne (get_eq_ok.mp got) differ (.inl rfl)

theorem limit_modify (change : Stream S → Stream S) :
    (registry.modify handle change).limit = registry.limit := by
  unfold modify
  split <;> rfl

def generations (registry : Registry S) : List UInt32 := registry.slots.map (·.generation)

theorem generations_modify (change : Stream S → Stream S) :
    (registry.modify handle change).generations = registry.generations := by
  unfold modify
  cases found : registry.find? handle with
  | none => rfl
  | some stream =>
      obtain ⟨bound, here⟩ := List.getElem?_eq_some_iff.mp (find?_eq_some.mp found)
      have place := List.set_getElem_self
        (show handle.slot.toNat < registry.generations.length by simpa [generations] using bound)
      simp only [generations, List.getElem_map, here] at place
      rw [generations, List.map_set, place, generations]

theorem find?_mapStreams (change : Stream S → Stream S) :
    (registry.mapStreams change).find? handle = (registry.find? handle).map change := by
  unfold find? mapStreams
  rw [List.getElem?_map]
  cases registry.slots[handle.slot.toNat]? with
  | none => rfl
  | some slot =>
      by_cases same : slot.generation = handle.generation
      · simp [same]
      · simp [same]

theorem mapStreams_mapStreams (registry : Registry S) (change rework : Stream S → Stream S) :
    (registry.mapStreams change).mapStreams rework = registry.mapStreams (rework ∘ change) := by
  rw [mapStreams, mapStreams, mapStreams, List.map_map]
  congr 1
  apply List.map_congr_left
  intro slot _
  rw [Function.comp_apply, Option.map_map]

theorem handles_eq_filterMap (registry : Registry S) :
    registry.handles =
      (registry.slots.map fun slot => slot.stream.map (·.handle)).filterMap id := by
  rw [handles, streams, List.map_filterMap, List.filterMap_map]
  rfl

theorem handles_modify (keeps : ∀ stream, (change stream).handle = stream.handle) :
    (registry.modify handle change).handles = registry.handles := by
  unfold modify
  cases found : registry.find? handle with
  | none => rfl
  | some stream =>
      obtain ⟨bound, here⟩ := List.getElem?_eq_some_iff.mp (find?_eq_some.mp found)
      rw [handles_eq_filterMap, handles_eq_filterMap]
      congr 1
      apply List.ext_getElem?
      intro index
      by_cases same : handle.slot.toNat = index
      · subst same
        simp [bound, here, keeps]
      · simp [same]

theorem handles_mapStreams (keeps : ∀ stream, (change stream).handle = stream.handle) :
    (registry.mapStreams change).handles = registry.handles := by
  rw [handles_eq_filterMap, handles_eq_filterMap, mapStreams, List.map_map]
  congr 1
  apply List.map_congr_left
  intro slot _
  change (slot.stream.map change).map (·.handle) = slot.stream.map (·.handle)
  rw [Option.map_map]
  cases slot.stream with
  | none => rfl
  | some stream => exact congrArg some (keeps stream)

theorem coherent_empty (limit : Nat) : ({ limit } : Registry S).Coherent := by
  intro index slot stream placed
  cases placed

theorem Coherent.set (coherent : registry.Coherent) {index : Nat} {slot : Slot S}
    (fits : ∀ stream, slot.stream = some stream →
      index < maxSlots ∧ stream.handle = ⟨UInt16.ofNat index, slot.generation⟩) :
    ({ registry with slots := registry.slots.set index slot } : Registry S).Coherent := by
  intro place found stream placed opened
  rw [List.getElem?_set] at placed
  split at placed
  · rename_i same
    split at placed
    · cases placed
      rw [← same]
      exact fits stream opened
    · cases placed
  · exact coherent place found stream placed opened

theorem Coherent.modify (coherent : registry.Coherent)
    (keeps : ∀ stream, (change stream).handle = stream.handle) :
    (registry.modify handle change).Coherent := by
  unfold Registry.modify
  cases found : registry.find? handle with
  | none => exact coherent
  | some stream =>
      apply coherent.set
      intro changed same
      cases same
      refine ⟨slot_lt handle, ?_⟩
      rw [keeps, coherent.handle_of_find? found, slot_of_handle]

theorem Coherent.mapStreams (coherent : registry.Coherent)
    (keeps : ∀ stream, (change stream).handle = stream.handle) :
    (registry.mapStreams change).Coherent := by
  intro index slot stream placed opened
  rw [Registry.mapStreams, List.getElem?_map, Option.map_eq_some_iff] at placed
  obtain ⟨old, found, rfl⟩ := placed
  obtain ⟨before, here, rfl⟩ := Option.map_eq_some_iff.mp opened
  rw [keeps]
  exact coherent index old before found here

theorem Coherent.erase (coherent : registry.Coherent) {after : Registry S}
    (erased : registry.erase handle = .ok (stream, after)) : after.Coherent := by
  obtain ⟨closed, _, made⟩ := map_eq_ok.mp erased
  cases made
  exact coherent.set fun stream vacant => nomatch vacant

theorem freeSlot?_le {slot : Nat} (free : registry.freeSlot? = some slot) :
    slot ≤ registry.slots.length := by
  unfold freeSlot? at free
  split at free
  · rename_i index found
    cases free
    exact Nat.le_of_lt (List.findIdx?_eq_some_iff_getElem.mp found).1
  · split at free
    · cases free
      exact Nat.le_refl _
    · cases free

theorem Coherent.insert [RecordSource S] (coherent : registry.Coherent) {name : String} {source : S}
    {after : Registry S} (inserted : registry.insert name source = .ok (handle, after)) :
    after.Coherent := by
  unfold Registry.insert at inserted
  split at inserted
  · cases inserted
  · rename_i slot free
    split at inserted
    · rename_i bound
      cases inserted
      split
      · apply coherent.set
        intro stream same
        cases same
        exact ⟨bound, rfl⟩
      · rename_i full
        have last : slot = registry.slots.length :=
          Nat.le_antisymm (freeSlot?_le free) (Nat.le_of_not_lt full)
        intro index found stream placed opened
        rw [List.getElem?_append] at placed
        split at placed
        · exact coherent index found stream placed opened
        · rename_i beyond
          obtain ⟨single, here⟩ := List.getElem?_eq_some_iff.mp placed
          rw [List.length_singleton] at single
          have same : index = slot := by omega
          simp only [List.getElem_singleton] at here
          rw [← here] at opened ⊢
          cases opened
          exact ⟨same ▸ bound, by rw [same]⟩
    · cases inserted

end KernelTrace.Registry
