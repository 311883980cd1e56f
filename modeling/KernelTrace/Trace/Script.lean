import KernelTrace.Trace.Source

/-! A source over given lists of records, which may be told to fail on one CPU. -/

namespace KernelTrace

/-- The CPU fails with `cause` once its reads have used up the allowance. -/
structure Breakdown where
  cpu : Nat
  allowance : Nat
  cause : SourceFault
  deriving DecidableEq, Repr

structure Script where
  lanes : Array (Lane Record)
  cpuCount : Nat
  breakdown : Option Breakdown

namespace Script

def ofLists (lists : List (List Record)) (cpuCount : Option Nat) (breakdown : Option Breakdown) :
    Script :=
  ⟨(lists.map Lane.ofList).toArray, cpuCount.getD lists.length, breakdown⟩

def wear (breakdown : Option Breakdown) (cpu : Nat) : Except SourceFault (Option Breakdown) :=
  match breakdown with
  | none => .ok none
  | some plan =>
    if plan.cpu = cpu then
      if plan.allowance = 0 then .error plan.cause
      else .ok (some { plan with allowance := plan.allowance - 1 })
    else .ok (some plan)

def advance (script : Script) (cpu : Nat) (step : Lane Record → Option Record × Lane Record) :
    Except SourceFault (Option Record) × Script :=
  if present : cpu < script.lanes.size then
    match wear script.breakdown cpu with
    | .error fault => (.error fault, script)
    | .ok breakdown =>
      let (record, lane) := step script.lanes[cpu]
      (.ok record, { script with lanes := script.lanes.set cpu lane, breakdown })
  else (.error (.cpuOutOfRange cpu script.lanes.size), script)

def pending (script : Script) (cpu : Nat) : Nat :=
  (script.lanes[cpu]?.map (·.rest.length)).getD 0

theorem pending_advance {script after : Script} {cpu : Nat} {record : Record}
    (read : script.advance cpu Lane.next = (.ok (some record), after)) :
    after.pending cpu < script.pending cpu := by
  unfold advance at read
  split at read
  · rename_i present
    split at read
    · simp at read
    · simp only [Prod.mk.injEq, Except.ok.injEq] at read
      have shorter : (script.lanes[cpu].next).2.rest.length < script.lanes[cpu].rest.length :=
        Lane.next_shortens (Prod.ext read.1 rfl)
      rw [← read.2]
      simpa [pending, present] using shorter
  · simp at read

/-- The first record, in list order, that has this offset. -/
def find? (script : Script) (offset : UInt64) : Option Record :=
  (script.lanes.toList.flatMap Lane.all).find? (·.offset = offset)

instance : RecordSource Script where
  cpuCount script := script.cpuCount
  restart script cpu := script.advance cpu Lane.first
  next script cpu := script.advance cpu Lane.next
  recordAt script offset :=
    match script.find? offset with
    | some record => (.ok record, script)
    | none => (.error (.noRecordAt offset), script)
  pending := pending
  pending_next _ _ _ _ := pending_advance

end Script

end KernelTrace
