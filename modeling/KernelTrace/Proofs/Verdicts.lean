import KernelTrace.Proofs.Ids
import KernelTrace.Proofs.Visibility
import Mathlib.Data.List.Induction

/-! The verdict of filters on an entry, said with the changes that the filters went through. Bit by
bit, that verdict and the mask before it are the mask that filters leave. -/

namespace KernelTrace

namespace Filters

variable {filters : Filters} {subject : Subject} {id : Int32}

theorem ids_put (filters : Filters) (subject other : Subject) (side part : Side) (ids : IdSet) :
    (filters.put subject side ids).ids other part =
      if subject = other ∧ side = part then ids else filters.ids other part := by
  cases subject <;> cases side <;> cases other <;> cases part <;> rfl

theorem ids_add (filters : Filters) (rule : IdRule) (subject : Subject) (side : Side) :
    (filters.add rule).ids subject side =
      if rule.subject = subject ∧ rule.side = side then (filters.ids subject side).insert rule.id
      else filters.ids subject side := by
  rw [add, ids_put]
  split
  · rename_i here
    rw [here.1, here.2]
  · rfl

theorem ids_clear (filters : Filters) (subject other : Subject) (side part : Side) :
    (filters.clear subject side).ids other part =
      if subject = other ∧ side = part then ∅ else filters.ids other part :=
  filters.ids_put subject other side part ∅

theorem passes_iff :
    (filters.gate subject).passes id ↔
      (filters.ids subject .shown = ∅ ∨ id ∈ (filters.ids subject .shown).ids) ∧
        id ∉ (filters.ids subject .hidden).ids := by
  rw [IdGate.passes, Bool.and_eq_true, Bool.or_eq_true, IdSet.isEmpty_iff, IdSet.contains_iff,
    Bool.not_eq_true', ← Bool.not_eq_true, IdSet.contains_iff]
  rfl

theorem isSet_iff : filters.isSet ↔ ∃ subject side, filters.ids subject side ≠ ∅ := by
  have empty : filters.isSet = false ↔ ∀ subject side, filters.ids subject side = ∅ := by
    rw [isSet, Bool.not_eq_false']
    simp only [IdGate.isEmpty, Bool.and_eq_true, IdSet.isEmpty_iff]
    constructor
    · intro none subject side
      cases subject <;> cases side <;> simp only [ids, gate, IdGate.ids, none]
    · intro none
      exact ⟨⟨⟨none .task .shown, none .task .hidden⟩, none .event .shown, none .event .hidden⟩,
        none .cpu .shown, none .cpu .hidden⟩
  rw [← Bool.not_eq_false, empty]
  simp only [not_forall, ne_eq]

theorem visibility_of_empty (empty : ∀ subject side, filters.ids subject side = ∅) (entry : Entry)
    (mask : UInt8) : filters.visibility entry mask = View.all := by
  have passes : ∀ subject id, (filters.gate subject).passes id = true := by
    intro subject id
    rw [passes_iff, empty, empty]
    exact ⟨.inl rfl, IdSet.not_mem_empty⟩
  have task := passes .task entry.pid
  have event := passes .event entry.eventId
  have cpu := passes .cpu entry.cpu
  simp only [gate] at task event cpu
  simp only [visibility, restrict, task, event, cpu, Bool.and_self, if_true]

end Filters

inductive Tuning
  | add (rule : IdRule)
  | clear (subject : Subject) (side : Side)
  | setContent (test : ContentTest)
  | clearContent

namespace Filters

def tune (filters : Filters) : Tuning → Filters
  | .add rule => filters.add rule
  | .clear subject side => filters.clear subject side
  | .setContent test => filters.setContent test
  | .clearContent => filters.clearContent

def ofTunings (changes : List Tuning) : Filters := changes.foldl tune {}

end Filters

namespace Tuning

variable {changes : List Tuning} {change : Tuning} {subject : Subject} {side : Side} {id : Int32}

/-- The id was added to this side of the subject, which was not cleared since. -/
def Lists (changes : List Tuning) (subject : Subject) (side : Side) (id : Int32) : Prop :=
  ∃ earlier later, changes = earlier ++ .add ⟨subject, side, id⟩ :: later ∧
    .clear subject side ∉ later

/-- The id is hidden by no change, and shown by one if any shows an id. -/
def Passes (changes : List Tuning) (subject : Subject) (id : Int32) : Prop :=
  ((∀ other, ¬ Lists changes subject .shown other) ∨ Lists changes subject .shown id) ∧
    ¬ Lists changes subject .hidden id

theorem not_lists_nil : ¬ Lists [] subject side id := by
  rintro ⟨earlier, later, same, _⟩
  exact List.append_ne_nil_of_right_ne_nil earlier (List.cons_ne_nil _ later) same.symm

theorem lists_append_singleton :
    Lists (changes ++ [change]) subject side id ↔
      change = .add ⟨subject, side, id⟩ ∨
        Lists changes subject side id ∧ change ≠ .clear subject side := by
  constructor
  · rintro ⟨earlier, later, same, kept⟩
    rcases List.eq_nil_or_concat later with rfl | ⟨before, last, rfl⟩
    · exact .inl (List.append_singleton_inj.mp same).2
    · rw [List.concat_eq_append] at same kept
      rw [← List.cons_append, ← List.append_assoc] at same
      obtain ⟨rfl, rfl⟩ := List.append_singleton_inj.mp same
      rw [List.mem_append, List.mem_singleton, not_or] at kept
      exact .inr ⟨⟨earlier, before, rfl, kept.1⟩, Ne.symm kept.2⟩
  · rintro (rfl | ⟨⟨earlier, later, rfl, kept⟩, other⟩)
    · exact ⟨changes, [], rfl, List.not_mem_nil⟩
    · refine ⟨earlier, later ++ [change], by simp, ?_⟩
      rw [List.mem_append, List.mem_singleton, not_or]
      exact ⟨kept, Ne.symm other⟩

end Tuning

namespace Filters

variable {filters : Filters} {changes : List Tuning} {change : Tuning} {subject : Subject}
  {side : Side} {id : Int32}

open Tuning

theorem mem_ids_tune :
    id ∈ ((filters.tune change).ids subject side).ids ↔
      change = .add ⟨subject, side, id⟩ ∨
        id ∈ (filters.ids subject side).ids ∧ change ≠ .clear subject side := by
  cases change with
  | add rule =>
      have same : rule = ⟨subject, side, id⟩ ↔
          (rule.subject = subject ∧ rule.side = side) ∧ id = rule.id := by
        cases rule
        simp only [IdRule.mk.injEq, and_assoc, eq_comm]
      simp only [tune, ids_add, Tuning.add.injEq, same, ne_eq, reduceCtorEq, not_false_eq_true,
        and_true]
      split
      · rename_i here
        simp only [here, and_self, true_and, IdSet.mem_insert]
      · rename_i elsewhere
        simp only [elsewhere, false_and, false_or]
  | clear ruled part =>
      simp only [tune, ids_clear, reduceCtorEq, false_or, ne_eq, Tuning.clear.injEq]
      split
      · rename_i here
        simp only [here, and_self, not_true_eq_false, and_false, iff_false]
        exact IdSet.not_mem_empty
      · rename_i elsewhere
        simp only [elsewhere, not_false_eq_true, and_true]
  | setContent | clearContent =>
      simp only [reduceCtorEq, false_or, ne_eq, not_false_eq_true, and_true]
      cases subject <;> exact Iff.rfl

theorem ofTunings_append_singleton (changes : List Tuning) (change : Tuning) :
    ofTunings (changes ++ [change]) = (ofTunings changes).tune change :=
  List.foldl_concat tune {} change changes

theorem mem_ids_ofTunings :
    id ∈ ((ofTunings changes).ids subject side).ids ↔ Lists changes subject side id := by
  induction changes using List.reverseRecOn with
  | nil =>
      refine iff_of_false ?_ not_lists_nil
      cases subject <;> cases side <;> exact IdSet.not_mem_empty
  | append_singleton changes change ih =>
      rw [ofTunings_append_singleton, mem_ids_tune, lists_append_singleton, ih]

theorem passes_ofTunings (changes : List Tuning) (subject : Subject) (id : Int32) :
    ((ofTunings changes).gate subject).passes id ↔ Passes changes subject id := by
  rw [passes_iff, IdSet.eq_empty_iff]
  simp only [mem_ids_ofTunings, Passes]

/-- Whatever changes the filters went through: a bit is left if it was there before, unless the
event is unwanted and the bit is neither that of the graph nor that of the plugins, and unless the
CPU or the task is unwanted and the bit is in the filter mask. -/
theorem restrict_bit_by_bit (changes : List Tuning) :
    (∀ (visible : UInt8) (entry : Entry) (admitted : Bool) (mask : UInt8) (bit : Nat),
      bitOf ((ofTunings changes).restrict visible entry admitted mask) bit ↔
        bitOf visible bit ∧
          (admitted ∧ Passes changes .event entry.eventId ∨
            bitOf View.graph bit ∨ bitOf View.untouched bit) ∧
          (bitOf mask bit = false ∨
            Passes changes .cpu entry.cpu ∧ Passes changes .task entry.pid)) ∧
    (∀ subject side id,
      id ∈ ((ofTunings changes).ids subject side).ids ↔ Lists changes subject side id) ∧
    ((∀ subject side, (ofTunings changes).ids subject side = ∅) →
      ∀ entry mask, (ofTunings changes).visibility entry mask = View.all) ∧
    ((ofTunings changes).isSet ↔ ∃ subject side, (ofTunings changes).ids subject side ≠ ∅) := by
  refine ⟨?_, fun _ _ _ => mem_ids_ofTunings, visibility_of_empty, isSet_iff⟩
  intro visible entry admitted mask bit
  have task := passes_ofTunings changes .task entry.pid
  have event := passes_ofTunings changes .event entry.eventId
  have cpu := passes_ofTunings changes .cpu entry.cpu
  simp only [gate] at task event cpu
  by_cases bound : bit < 8
  · rw [bitOf_restrict bound, ← task, ← event, ← cpu, bitOf_or]
    simp only [Bool.and_eq_true, Bool.or_eq_true, Bool.not_eq_true', and_assoc]
  · rw [bitOf_of_le (Nat.le_of_not_lt bound), bitOf_of_le (Nat.le_of_not_lt bound)]
    simp only [Bool.false_eq_true, false_and]

def retracted : List Tuning :=
  [.add ⟨.task, .shown, 5⟩, .setContent fun _ => .ok false, .add ⟨.task, .hidden, 7⟩,
   .clear .task .shown, .clear .task .hidden]

theorem restrict_bit_by_bit_of_retracted :
    (∀ subject side, (ofTunings retracted).ids subject side = ∅) ∧
      (ofTunings retracted).visibility ⟨⟨0, 0⟩, 1, 7, 2, 10, 0, 0⟩ View.graph = View.all := by
  have empty : ∀ subject side, (ofTunings retracted).ids subject side = ∅ := by
    intro subject side
    cases subject <;> cases side <;> rfl
  exact ⟨empty, (restrict_bit_by_bit retracted).2.2.1 empty _ _⟩

example :
    (ofTunings [.add ⟨.event, .shown, 1⟩, .add ⟨.task, .shown, 5⟩, .add ⟨.task, .hidden, 5⟩]).restrict
      View.all ⟨⟨0, 0⟩, 1, 5, 2, 10, 0, 0⟩ true View.graph = View.untouched := by
  decide

end Filters

end KernelTrace
