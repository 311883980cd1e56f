import KernelTrace.Proofs.Slots

namespace KernelTrace

section

variable {α : Type} {change : α → α} {items others : List α} {place other : Nat} {item : α}

theorem set_modify (fits : place = other → change item = item) :
    (items.modify place change).set other item = (items.set other item).modify place change := by
  apply List.ext_getElem?
  intro index
  simp only [List.getElem?_set, List.getElem?_modify, List.length_modify]
  by_cases here : other = index
  · subst here
    by_cases bound : other < items.length
    · by_cases same : place = other <;> simp [bound, same, fits]
    · simp [bound]
  · simp [here]

theorem map_modify {β : Type} {read : α → β} {rework : β → β}
    (commutes : ∀ item, read (change item) = rework (read item)) :
    (items.modify place change).map read = (items.map read).modify place rework := by
  apply List.ext_getElem?
  intro index
  simp only [List.getElem?_map, List.getElem?_modify]
  by_cases here : place = index
  · cases items[index]? <;> simp [here, commutes]
  · simp [here]

theorem append_modify (bound : place < items.length) :
    items.modify place change ++ others = (items ++ others).modify place change := by
  apply List.ext_getElem?
  intro index
  simp only [List.getElem?_append, List.getElem?_modify, List.length_modify]
  by_cases inside : index < items.length
  · simp [inside]
  · have beyond : place ≠ index := by omega
    simp [inside, beyond]

end

variable {S : Type}

def Slot.changeAt (generation : UInt32) (change : Stream S → Stream S) (slot : Slot S) : Slot S :=
  if slot.generation = generation then { slot with stream := slot.stream.map change } else slot

namespace Registry

variable {registry : Registry S} {handle other : Handle} {stream : Stream S}
  {change rework : Stream S → Stream S}

theorem modify_eq (registry : Registry S) (handle : Handle) (change : Stream S → Stream S) :
    registry.modify handle change =
      { registry with
        slots := registry.slots.modify handle.slot.toNat
          (Slot.changeAt handle.generation change) } := by
  have slots : (registry.modify handle change).slots =
      registry.slots.modify handle.slot.toNat (Slot.changeAt handle.generation change) := by
    apply List.ext_getElem?
    intro index
    rw [List.getElem?_modify]
    unfold modify find?
    by_cases here : handle.slot.toNat = index
    · subst here
      cases found : registry.slots[handle.slot.toNat]? with
      | none => simp [found]
      | some slot =>
          obtain ⟨bound, _⟩ := List.getElem?_eq_some_iff.mp found
          obtain ⟨generation, held⟩ := slot
          by_cases same : generation = handle.generation
          · subst same
            cases held with
            | none => simp [found, Slot.changeAt]
            | some stream => simp [bound, Slot.changeAt]
          · simp [same, found, Slot.changeAt]
    · simp only [here, if_false]
      split <;> simp [here]
  rw [← slots]
  unfold modify
  split <;> rfl

theorem modify_modify (registry : Registry S) (handle : Handle)
    (change rework : Stream S → Stream S) :
    (registry.modify handle change).modify handle rework =
      registry.modify handle (rework ∘ change) := by
  have twice : Slot.changeAt handle.generation rework ∘ Slot.changeAt handle.generation change =
      Slot.changeAt handle.generation (rework ∘ change) := by
    funext slot
    by_cases same : slot.generation = handle.generation <;> simp [Slot.changeAt, same]
  simp only [modify_eq, List.modify_modify_eq, twice]

theorem modify_comm (differ : other ≠ handle) :
    (registry.modify handle change).modify other rework =
      (registry.modify other rework).modify handle change := by
  simp only [modify_eq]
  by_cases slots : handle.slot.toNat = other.slot.toNat
  · -- of one slot under two generations, at most one change finds a stream
    have generations : handle.generation ≠ other.generation := by
      intro same
      have slots := UInt16.toNat_inj.mp slots
      exact differ (by cases other; cases handle; simp_all)
    have swap : Slot.changeAt other.generation rework ∘ Slot.changeAt handle.generation change =
        Slot.changeAt handle.generation change ∘ Slot.changeAt other.generation rework := by
      funext slot
      by_cases first : slot.generation = handle.generation <;>
        by_cases second : slot.generation = other.generation <;>
        simp_all [Slot.changeAt]
    rw [slots, List.modify_modify_eq, List.modify_modify_eq, swap]
  · rw [List.modify_modify_ne _ _ _ slots]

theorem mapStreams_modify (commutes : ∀ stream, rework (change stream) = change (rework stream)) :
    (registry.modify handle change).mapStreams rework =
      (registry.mapStreams rework).modify handle change := by
  simp only [modify_eq, mapStreams]
  congr 1
  apply map_modify
  intro slot
  by_cases same : slot.generation = handle.generation
  · simp [Slot.changeAt, same, Function.comp_def, commutes]
  · simp [Slot.changeAt, same]

theorem vacancies_modify (registry : Registry S) (handle : Handle)
    (change : Stream S → Stream S) :
    (registry.modify handle change).slots.map (·.stream.isNone) =
      registry.slots.map (·.stream.isNone) := by
  have kept : ∀ slot : Slot S,
      (slot.changeAt handle.generation change).stream.isNone = id slot.stream.isNone := by
    intro slot
    by_cases same : slot.generation = handle.generation <;> simp [Slot.changeAt, same]
  rw [modify_eq, map_modify kept, List.modify_id]

theorem freeSlot?_modify : (registry.modify handle change).freeSlot? = registry.freeSlot? := by
  have vacancies := vacancies_modify registry handle change
  have first := congrArg (List.findIdx? id) vacancies
  have length := congrArg List.length vacancies
  simp only [List.findIdx?_map, List.length_map, Function.id_comp] at first length
  simp only [freeSlot?, first, length, limit_modify]

theorem erase_modify (registry : Registry S) (handle other : Handle)
    (change : Stream S → Stream S) :
    ((registry.modify handle change).erase other).map (·.2) =
      (registry.erase other).map fun (_, after) => after.modify handle change := by
  have opened : ((registry.modify handle change).find? other).isSome =
      (registry.find? other).isSome := by
    by_cases same : other = handle
    · simp [same, find?_modify]
    · rw [find?_modify_of_ne same]
  have vacated : (registry.modify handle change).slots.set other.slot.toNat
        ⟨other.generation + 1, none⟩ =
      (registry.slots.set other.slot.toNat ⟨other.generation + 1, none⟩).modify handle.slot.toNat
        (Slot.changeAt handle.generation change) := by
    rw [modify_eq]
    apply set_modify
    simp [Slot.changeAt]
  cases found : registry.find? other with
  | none =>
      rw [found, Option.isSome_none, Option.isSome_eq_false_iff,
        Option.isNone_iff_eq_none] at opened
      simp [erase, get, found, opened, Except.map]
  | some stream =>
      rw [found, Option.isSome_some, Option.isSome_iff_exists] at opened
      obtain ⟨changed, there⟩ := opened
      simp only [erase, get, found, there, Except.map, vacated, limit_modify]
      rw [modify_eq]

variable [RecordSource S]

theorem insert_modify (found : registry.find? handle = some stream) (name : String) (source : S) :
    (registry.modify handle change).insert name source =
      (registry.insert name source).map fun (fresh, after) =>
        (fresh, after.modify handle change) := by
  simp only [insert, freeSlot?_modify]
  cases free : registry.freeSlot? with
  | none => simp [Except.map, limit_modify]
  | some slot =>
      have apart : handle.slot.toNat ≠ slot := by
        rintro rfl
        have vacant := (freeSlot?_eq_some free).1
        rw [streamAt, find?_eq_some.mp found] at vacant
        cases vacant
      have bound := (List.getElem?_eq_some_iff.mp (find?_eq_some.mp found)).1
      dsimp only
      split
      · have placed : (registry.slots.modify handle.slot.toNat
            (Slot.changeAt handle.generation change))[slot]? = registry.slots[slot]? := by
          simp [apart]
        simp only [modify_eq, placed, List.length_modify, Except.map]
        split
        · rw [set_modify fun same => absurd same apart]
        · rw [append_modify bound]
      · simp [Except.map, limit_modify]

end Registry
end KernelTrace
