import KernelTrace.Proofs.Registry
import Mathlib.Data.List.Count

namespace KernelTrace

variable {S : Type}

def Stream.ofSource [RecordSource S] (handle : Handle) (name : String) (source : S) : Stream S :=
  { handle, name, cpuCount := RecordSource.cpuCount source, source }

namespace Registry

variable {registry after : Registry S} {handle other : Handle} {stream : Stream S}
  {change : Stream S → Stream S} {slot : Nat}

def streamAt (registry : Registry S) (slot : Nat) : Option (Stream S) :=
  registry.slots[slot]?.bind (·.stream)

def givenBack (registry : Registry S) (slot : Nat) : UInt32 :=
  (registry.slots[slot]?.map (·.generation)).getD 0

theorem find?_eq_streamAt :
    registry.find? handle =
      if registry.givenBack handle.slot.toNat = handle.generation then
        registry.streamAt handle.slot.toNat
      else none := by
  unfold find? streamAt givenBack
  cases registry.slots[handle.slot.toNat]? with
  | none => simp
  | some slot => rfl

theorem get_eq : registry.get handle =
    (registry.find? handle).elim (.error (.notOpen handle)) .ok := by
  unfold get
  cases registry.find? handle <;> rfl

theorem get_modify (found : registry.find? handle = some stream) (change : Stream S → Stream S)
    (other : Handle) : (registry.modify handle change).get other =
      if other = handle then .ok (change stream) else registry.get other := by
  rw [get_eq]
  by_cases same : other = handle
  · rw [same, find?_modify, found, if_pos rfl]
    rfl
  · rw [find?_modify_of_ne same, if_neg same, get_eq]

theorem givenBack_of_find? (found : registry.find? handle = some stream) :
    registry.givenBack handle.slot.toNat = handle.generation := by
  rw [givenBack, find?_eq_some.mp found]
  rfl

theorem freeSlot?_eq_some (free : registry.freeSlot? = some slot) :
    registry.streamAt slot = none ∧ (∀ earlier < slot, (registry.streamAt earlier).isSome) ∧
      (slot < registry.slots.length ∨
        slot = registry.slots.length ∧ registry.slots.length < registry.limit) := by
  unfold freeSlot? at free
  split at free
  · rename_i index found
    cases free
    obtain ⟨bound, vacant, taken⟩ := List.findIdx?_eq_some_iff_getElem.mp found
    refine ⟨?_, ?_, .inl bound⟩
    · simpa [streamAt, bound] using vacant
    · intro earlier below
      have here := taken earlier below
      simpa [streamAt, Nat.lt_trans below bound, Option.isSome_iff_ne_none] using here
  · rename_i full
    split at free
    · rename_i room
      cases free
      refine ⟨by simp [streamAt], ?_, .inr ⟨rfl, room⟩⟩
      intro earlier below
      have here := List.findIdx?_eq_none_iff.mp full _ (List.getElem_mem below)
      simpa [streamAt, below, Option.isSome_iff_ne_none] using here
    · cases free

theorem freeSlot?_eq_none (none : registry.freeSlot? = none) :
    registry.limit ≤ registry.slots.length ∧
      ∀ slot < registry.slots.length, (registry.streamAt slot).isSome := by
  unfold freeSlot? at none
  split at none
  · cases none
  · rename_i full
    split at none
    · cases none
    · rename_i crowded
      refine ⟨Nat.le_of_not_lt crowded, ?_⟩
      intro slot bound
      have here := List.findIdx?_eq_none_iff.mp full _ (List.getElem_mem bound)
      simpa [streamAt, bound, Option.isSome_iff_ne_none] using here

theorem size_eq_countP : registry.size = registry.slots.countP (·.stream.isSome) :=
  List.length_filterMap_eq_countP

theorem le_size (bound : slot ≤ registry.slots.length)
    (taken : ∀ earlier < slot, (registry.streamAt earlier).isSome) : slot ≤ registry.size := by
  have front : (registry.slots.take slot).countP (·.stream.isSome) = slot := by
    have all : ∀ found ∈ registry.slots.take slot, found.stream.isSome := by
      intro found member
      obtain ⟨index, below, rfl⟩ := List.mem_take_iff_getElem.mp member
      have here := taken index (by omega)
      simpa [streamAt, show index < registry.slots.length by omega] using here
    rw [List.countP_eq_length.mpr all, List.length_take, Nat.min_eq_left bound]
  calc slot
    _ = (registry.slots.take slot).countP (·.stream.isSome) := front.symm
    _ ≤ registry.slots.countP (·.stream.isSome) := (List.take_sublist slot _).countP_le
    _ = registry.size := size_eq_countP.symm

theorem Coherent.streamAt_beyond (coherent : registry.Coherent) (beyond : maxSlots ≤ slot) :
    registry.streamAt slot = none := by
  unfold streamAt
  cases placed : registry.slots[slot]? with
  | none => rfl
  | some found =>
      cases opened : found.stream with
      | none => exact opened
      | some stream =>
          have named := (coherent slot found stream placed opened).1
          omega

theorem size_lt {bound : Nat} (below : slot < bound) (vacant : registry.streamAt slot = none)
    (beyond : ∀ later, bound ≤ later → registry.streamAt later = none) :
    registry.size < bound := by
  have rest : (registry.slots.drop bound).countP (·.stream.isSome) = 0 := by
    rw [List.countP_eq_zero]
    intro found member
    obtain ⟨index, here, rfl⟩ := List.mem_drop_iff_getElem.mp member
    have within : bound + index < registry.slots.length := by omega
    simpa [streamAt, within] using beyond (bound + index) (by omega)
  have front : (registry.slots.take bound).countP (·.stream.isSome) < bound := by
    by_cases set : slot < registry.slots.length
    · have here : registry.slots[slot] ∈ registry.slots.take bound :=
        List.mem_take_iff_getElem.mpr ⟨slot, by omega, rfl⟩
      have fewer : (registry.slots.take bound).countP (·.stream.isSome) <
          (registry.slots.take bound).length := by
        rw [List.countP_lt_length_iff]
        exact ⟨_, here, by simpa [streamAt, set] using vacant⟩
      exact Nat.lt_of_lt_of_le fewer (List.length_take_le bound _)
    · calc (registry.slots.take bound).countP (·.stream.isSome)
        _ ≤ (registry.slots.take bound).length := List.countP_le_length
        _ < bound := by rw [List.length_take]; omega
  calc registry.size
    _ = (registry.slots.take bound ++ registry.slots.drop bound).countP (·.stream.isSome) := by
      rw [List.take_append_drop, size_eq_countP]
    _ = (registry.slots.take bound).countP (·.stream.isSome) := by
      rw [List.countP_append, rest, Nat.add_zero]
    _ < bound := front

theorem find?_erase (erased : registry.erase handle = .ok (stream, after)) :
    after.find? other = if other = handle then none else registry.find? other := by
  split
  · rename_i same
    subst same
    obtain ⟨closed, got, made⟩ := map_eq_ok.mp erased
    obtain ⟨rfl, rfl⟩ := Prod.mk.inj made
    have placed := find?_eq_some.mp (get_eq_ok.mp got)
    have bound := (List.getElem?_eq_some_iff.mp placed).1
    simp [find?, bound]
  · rename_i differ
    exact find?_erase_of_ne differ erased

theorem get_erase (erased : registry.erase handle = .ok (stream, after)) (other : Handle) :
    after.get other = if other = handle then .error (.notOpen handle) else registry.get other := by
  rw [get_eq, find?_erase erased, get_eq]
  by_cases same : other = handle <;> simp [same]

theorem givenBack_erase (erased : registry.erase handle = .ok (stream, after)) :
    after.givenBack slot =
      if slot = handle.slot.toNat then registry.givenBack slot + 1 else registry.givenBack slot := by
  obtain ⟨closed, got, made⟩ := map_eq_ok.mp erased
  obtain ⟨rfl, rfl⟩ := Prod.mk.inj made
  have placed := find?_eq_some.mp (get_eq_ok.mp got)
  have bound := (List.getElem?_eq_some_iff.mp placed).1
  simp only [givenBack, List.getElem?_set]
  split
  · rename_i same
    rw [if_pos same.symm, ← same, placed]
    rfl
  · rename_i apart
    rw [if_neg (Ne.symm apart)]

theorem limit_erase (erased : registry.erase handle = .ok (stream, after)) :
    after.limit = registry.limit ∧ after.slots.length = registry.slots.length := by
  obtain ⟨closed, got, made⟩ := map_eq_ok.mp erased
  obtain ⟨rfl, rfl⟩ := Prod.mk.inj made
  simp

theorem givenBack_of_generations (same : after.generations = registry.generations) :
    after.givenBack slot = registry.givenBack slot := by
  have counts := congrArg (·[slot]?) same
  simp only [generations, List.getElem?_map] at counts
  rw [givenBack, counts, givenBack]

theorem generations_mapStreams (change : Stream S → Stream S) :
    (registry.mapStreams change).generations = registry.generations := by
  rw [generations, mapStreams, List.map_map]
  rfl

/-- What a refused insert leaves: it may have set up one more slot, of which it then turned out that
no handle can name it. -/
def grown (registry : Registry S) : Registry S :=
  if registry.slots.all (·.stream.isSome) && registry.slots.length < registry.limit then
    { registry with slots := registry.slots ++ [({} : Slot S)] }
  else registry

theorem getElem?_grown (registry : Registry S) (slot : Nat) :
    registry.grown.slots[slot]? = registry.slots[slot]? ∨
      registry.slots[slot]? = none ∧ registry.grown.slots[slot]? = some {} := by
  unfold grown
  split
  · by_cases set : slot < registry.slots.length
    · exact .inl (List.getElem?_append_left set)
    · by_cases last : slot = registry.slots.length
      · exact .inr (by simp [last])
      · left
        rw [List.getElem?_eq_none (by simp; omega), List.getElem?_eq_none (by omega)]
  · exact .inl rfl

theorem grown_fits (fits : registry.slots.length ≤ registry.limit) :
    registry.grown.limit = registry.limit ∧ registry.grown.slots.length ≤ registry.limit := by
  unfold grown
  split
  · rename_i room
    have room := of_decide_eq_true (Bool.and_eq_true_iff.mp room).2
    exact ⟨rfl, by simpa using Nat.succ_le_of_lt room⟩
  · exact ⟨rfl, fits⟩

theorem find?_grown : registry.grown.find? handle = registry.find? handle := by
  unfold find?
  rcases getElem?_grown registry handle.slot.toNat with same | ⟨unset, vacant⟩
  · rw [same]
  · rw [unset, vacant]
    simp

theorem streams_grown : registry.grown.streams = registry.streams := by
  unfold grown
  split
  · simp [streams]
  · rfl

theorem givenBack_grown : registry.grown.givenBack slot = registry.givenBack slot := by
  unfold givenBack
  rcases getElem?_grown registry slot with same | ⟨unset, vacant⟩
  · rw [same]
  · rw [unset, vacant]
    rfl

theorem Coherent.grown (coherent : registry.Coherent) : registry.grown.Coherent := by
  intro index found stream placed opened
  rcases getElem?_grown registry index with same | ⟨_, vacant⟩
  · exact coherent index found stream (same.symm.trans placed) opened
  · cases vacant.symm.trans placed
    cases opened

variable [RecordSource S] {name : String} {source : S}

theorem insert_eq_ok (inserted : registry.insert name source = .ok (handle, after)) :
    registry.freeSlot? = some handle.slot.toNat ∧
      handle.generation = registry.givenBack handle.slot.toNat ∧ after.limit = registry.limit ∧
      ∀ slot, after.slots[slot]? =
        if slot = handle.slot.toNat then
          some ⟨handle.generation, some (.ofSource handle name source)⟩
        else registry.slots[slot]? := by
  unfold Registry.insert at inserted
  split at inserted
  · cases inserted
  · rename_i place free
    split at inserted
    · rename_i named
      obtain ⟨rfl, rfl⟩ := Prod.mk.inj (Except.ok.inj inserted)
      have back : (UInt16.ofNat place).toNat = place := UInt16.toNat_ofNat_of_lt' named
      refine ⟨by rw [back, free], by rw [back]; rfl, rfl, ?_⟩
      intro slot
      rw [back]
      dsimp only
      split
      · rename_i set
        rw [List.getElem?_set]
        grind [Stream.ofSource]
      · rename_i full
        have last : place = registry.slots.length :=
          Nat.le_antisymm (freeSlot?_le free) (Nat.le_of_not_lt full)
        rw [List.getElem?_append]
        grind [Stream.ofSource]
    · cases inserted

theorem insert_eq_error {fault : Fault} (refused : registry.insert name source = .error fault) :
    fault = .full registry.limit ∧
      ∀ slot, registry.freeSlot? = some slot → maxSlots ≤ slot := by
  unfold Registry.insert at refused
  split at refused
  · rename_i none
    cases refused
    exact ⟨rfl, fun slot free => nomatch none.symm.trans free⟩
  · rename_i place free
    split at refused
    · cases refused
    · rename_i unnamed
      cases refused
      refine ⟨rfl, fun slot again => ?_⟩
      cases free.symm.trans again
      exact Nat.le_of_not_lt unnamed

theorem Coherent.insert_succeeds_iff (coherent : registry.Coherent)
    (fits : registry.slots.length ≤ registry.limit) :
    (∃ handle after, registry.insert name source = .ok (handle, after)) ↔
      registry.size < min registry.limit maxSlots := by
  constructor
  · intro ⟨handle, after, inserted⟩
    obtain ⟨free, _⟩ := insert_eq_ok inserted
    obtain ⟨vacant, _, room⟩ := freeSlot?_eq_some free
    have unset : ∀ later, registry.limit ≤ later → registry.streamAt later = none := by
      intro later beyond
      simp [streamAt, List.getElem?_eq_none (Nat.le_trans fits beyond)]
    have few : registry.size < registry.limit := size_lt (by omega) vacant unset
    have named : registry.size < maxSlots :=
      size_lt (slot_lt handle) vacant fun later => coherent.streamAt_beyond
    exact Nat.lt_min.mpr ⟨few, named⟩
  · intro room
    cases inserted : registry.insert name source with
    | ok made => exact ⟨made.1, made.2, rfl⟩
    | error fault =>
        have unnamed := (insert_eq_error inserted).2
        cases free : registry.freeSlot? with
        | none =>
            obtain ⟨full, taken⟩ := freeSlot?_eq_none free
            have crowded := le_size (Nat.le_refl _) taken
            omega
        | some slot =>
            have taken := (freeSlot?_eq_some free).2.1
            have crowded := le_size (freeSlot?_le free) taken
            have high := unnamed slot free
            omega

theorem streamAt_insert (inserted : registry.insert name source = .ok (handle, after)) :
    after.streamAt slot =
      if slot = handle.slot.toNat then some (.ofSource handle name source)
      else registry.streamAt slot := by
  obtain ⟨_, _, _, slots⟩ := insert_eq_ok inserted
  simp only [streamAt, slots]
  split <;> rfl

theorem givenBack_insert (inserted : registry.insert name source = .ok (handle, after)) :
    after.givenBack slot = registry.givenBack slot := by
  obtain ⟨_, generation, _, slots⟩ := insert_eq_ok inserted
  rw [givenBack, slots]
  split
  · rename_i same
    rw [same]
    exact generation
  · rfl

theorem find?_before_insert (inserted : registry.insert name source = .ok (handle, after)) :
    registry.find? handle = none := by
  simp [find?_eq_streamAt, (freeSlot?_eq_some (insert_eq_ok inserted).1).1]

theorem find?_insert (inserted : registry.insert name source = .ok (handle, after)) :
    after.find? other =
      if other = handle then some (.ofSource handle name source) else registry.find? other := by
  obtain ⟨free, generation, _⟩ := insert_eq_ok inserted
  have vacant := (freeSlot?_eq_some free).1
  rw [find?_eq_streamAt, find?_eq_streamAt, streamAt_insert inserted, givenBack_insert inserted]
  by_cases same : other = handle
  · subst same
    simp [generation]
  · by_cases slots : other.slot = handle.slot
    · -- the slot was vacant, and now it is taken under one generation only
      have generations : registry.givenBack handle.slot.toNat ≠ other.generation := by
        intro given
        exact same (by cases other; cases handle; simp_all)
      simp [slots, generations, same]
    · have apart : other.slot.toNat ≠ handle.slot.toNat := fun equal =>
        slots (UInt16.toNat_inj.mp equal)
      simp [apart, same]

theorem get_insert (inserted : registry.insert name source = .ok (handle, after)) (other : Handle) :
    after.get other =
      if other = handle then .ok (.ofSource handle name source) else registry.get other := by
  rw [get_eq, find?_insert inserted, get_eq]
  by_cases same : other = handle <;> simp [same]

end Registry

end KernelTrace
