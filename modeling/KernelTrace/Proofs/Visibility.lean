import KernelTrace.Visibility.Filters

namespace KernelTrace

def bitOf (mask : UInt8) (i : Nat) : Bool := mask.toBitVec.getLsbD i

theorem eq_of_bits {a b : UInt8} (same : ∀ i, i < 8 → bitOf a i = bitOf b i) : a = b :=
  UInt8.toBitVec_inj.mp (BitVec.eq_of_getLsbD_eq same)

@[simp] theorem bitOf_and (a b : UInt8) (i : Nat) :
    bitOf (a &&& b) i = (bitOf a i && bitOf b i) := by
  simp [bitOf]

@[simp] theorem bitOf_or (a b : UInt8) (i : Nat) :
    bitOf (a ||| b) i = (bitOf a i || bitOf b i) := by
  simp [bitOf]

theorem bitOf_not {i : Nat} (bound : i < 8) (a : UInt8) : bitOf (~~~a) i = !bitOf a i := by
  simp [bitOf, bound]

theorem bitOf_of_le {i : Nat} (beyond : 8 ≤ i) (mask : UInt8) : bitOf mask i = false :=
  BitVec.getLsbD_of_ge mask.toBitVec i beyond

theorem bitOf_all {i : Nat} (bound : i < 8) : bitOf View.all i = true := by
  revert i
  decide

theorem bitOf_untouched {i : Nat} (bound : i < 8) : bitOf View.untouched i = decide (i = 7) := by
  revert i
  decide

theorem bitOf_text {i : Nat} (bound : i < 8) : bitOf View.text i = decide (i = 1) := by
  revert i
  decide

theorem and_eq_zero_iff {mask bit : UInt8} {place : Nat} (bound : place < 8)
    (single : ∀ i, i < 8 → bitOf bit i = decide (i = place)) :
    mask &&& bit = 0 ↔ bitOf mask place = false := by
  have zero : ∀ i, bitOf 0 i = false := fun i => by simp [bitOf]
  constructor
  · intro clear
    have none := zero place
    rw [← clear, bitOf_and, single place bound] at none
    simpa using none
  · intro clear
    apply eq_of_bits
    intro i below
    rw [bitOf_and, single i below, zero]
    by_cases same : i = place
    · rw [same, clear]
      rfl
    · simp [same]

theorem clear_iff {mask : UInt8} : mask &&& View.untouched = 0 ↔ bitOf mask 7 = false :=
  and_eq_zero_iff (by decide) fun _ => bitOf_untouched

theorem text_clear_iff {mask : UInt8} : mask &&& View.text = 0 ↔ bitOf mask 1 = false :=
  and_eq_zero_iff (by decide) fun _ => bitOf_text

namespace Filters

variable {i : Nat} {mask : UInt8}

/-- A bit stays unless its event is unwanted and the bit is neither that of the graph nor that of
the plugins, or it is in the filter mask and the CPU or the task is unwanted. -/
theorem bitOf_restrict (bound : i < 8) (filters : Filters) (visible : UInt8) (entry : Entry)
    (admitted : Bool) (mask : UInt8) :
    bitOf (filters.restrict visible entry admitted mask) i =
      (bitOf visible i &&
        (admitted && filters.event.passes entry.eventId ||
          bitOf (View.graph ||| View.untouched) i) &&
        (!bitOf mask i || filters.cpu.passes entry.cpu && filters.task.passes entry.pid)) := by
  simp only [restrict, collapse]
  cases admitted && filters.event.passes entry.eventId <;>
    cases filters.cpu.passes entry.cpu <;> cases filters.task.passes entry.pid <;>
      simp [bitOf_not bound]

theorem restrict_eq_and (filters : Filters) (visible : UInt8) (entry : Entry) (admitted : Bool)
    (mask : UInt8) :
    filters.restrict visible entry admitted mask =
      visible &&& filters.restrict View.all entry admitted mask := by
  apply eq_of_bits
  intro i bound
  rw [bitOf_and, bitOf_restrict bound, bitOf_restrict bound, bitOf_all bound, Bool.true_and,
    Bool.and_assoc]

theorem restrict_keeps_touch (clear : mask &&& View.untouched = 0) (filters : Filters)
    (visible : UInt8) (entry : Entry) (admitted : Bool) :
    bitOf (filters.restrict visible entry admitted mask) 7 = bitOf visible 7 := by
  have collapsed : bitOf (View.graph ||| View.untouched) 7 = true := rfl
  rw [bitOf_restrict (by decide), clear_iff.mp clear, collapsed]
  simp

end Filters

end KernelTrace
