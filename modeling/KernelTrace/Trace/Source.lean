import KernelTrace.Entry
import KernelTrace.Fault

namespace KernelTrace

/-- Reading the next record of a CPU comes to an end: `pending` counts down with each record. -/
class RecordSource (S : Type) where
  cpuCount : S → Nat
  restart : S → Nat → Except SourceFault (Option Record) × S
  next : S → Nat → Except SourceFault (Option Record) × S
  recordAt : S → UInt64 → Except SourceFault Record × S
  eventName : S → Int32 → Option String := fun _ _ => none
  taskName : S → Int32 → Option String := fun _ _ => none
  infoOf : S → Record → String := fun _ _ => ""
  pending : S → Nat → Nat
  pending_next : ∀ (s s' : S) (cpu : Nat) (record : Record),
    next s cpu = (.ok (some record), s') → pending s' cpu < pending s cpu

instance {A B : Type} [RecordSource A] [RecordSource B] : RecordSource (A ⊕ B) where
  cpuCount s := s.elim RecordSource.cpuCount RecordSource.cpuCount
  restart s cpu :=
    s.elim (fun a => (RecordSource.restart a cpu).map id .inl)
      (fun b => (RecordSource.restart b cpu).map id .inr)
  next s cpu :=
    s.elim (fun a => (RecordSource.next a cpu).map id .inl)
      (fun b => (RecordSource.next b cpu).map id .inr)
  recordAt s offset :=
    s.elim (fun a => (RecordSource.recordAt a offset).map id .inl)
      (fun b => (RecordSource.recordAt b offset).map id .inr)
  eventName s eventId :=
    s.elim (RecordSource.eventName · eventId) (RecordSource.eventName · eventId)
  taskName s pid := s.elim (RecordSource.taskName · pid) (RecordSource.taskName · pid)
  infoOf s record := s.elim (RecordSource.infoOf · record) (RecordSource.infoOf · record)
  pending s cpu := s.elim (RecordSource.pending · cpu) (RecordSource.pending · cpu)
  pending_next := by
    rintro (a | b) s' cpu record read
    · have read : Prod.map id Sum.inl (RecordSource.next a cpu) = (.ok (some record), s') := read
      cases step : RecordSource.next a cpu with
      | mk result next =>
          rw [step] at read
          simp only [Prod.map_apply, id_eq, Prod.mk.injEq] at read
          obtain ⟨rfl, rfl⟩ := read
          exact RecordSource.pending_next a next cpu record step
    · have read : Prod.map id Sum.inr (RecordSource.next b cpu) = (.ok (some record), s') := read
      cases step : RecordSource.next b cpu with
      | mk result next =>
          rw [step] at read
          simp only [Prod.map_apply, id_eq, Prod.mk.injEq] at read
          obtain ⟨rfl, rfl⟩ := read
          exact RecordSource.pending_next b next cpu record step

structure Lane (α : Type) where
  all : List α
  rest : List α

namespace Lane

variable {α : Type}

def ofList (all : List α) : Lane α := ⟨all, all⟩

def first (lane : Lane α) : Option α × Lane α := (lane.all.head?, ⟨lane.all, lane.all.tail⟩)

def next (lane : Lane α) : Option α × Lane α := (lane.rest.head?, ⟨lane.all, lane.rest.tail⟩)

theorem next_shortens {lane after : Lane α} {item : α} (read : lane.next = (some item, after)) :
    after.rest.length < lane.rest.length := by
  obtain ⟨all, rest⟩ := lane
  cases rest with
  | nil => simp [next] at read
  | cons head tail =>
      simp only [next, Prod.mk.injEq] at read
      rw [← read.2]
      simp

end Lane

end KernelTrace
