import KernelTrace.Trace.Source
import KernelTrace.Trace.Document

/-! A trace document as a source: each CPU in time order, records of one time in document order. -/

namespace KernelTrace

structure Replay where
  document : Document
  lanes : Array (Lane Record)

/-- How many lists an array can be laid out for, at 24 bytes each. It is asked for one to each CPU
before any record is looked at. -/
def maxLanes : Nat := 0x7FFFFFFFFFFFFFF8 / 24

def Document.stray? (document : Document) : Option Record :=
  document.rawRecords.find? fun record => document.cpuCount.toNat ≤ record.cpu.toNat

def Document.lane (document : Document) (cpu : Nat) : List Record :=
  (document.rawRecords.filter fun record => record.cpu.toNat = cpu).mergeSort
    fun a b => a.ts ≤ b.ts

namespace Replay

def ofDocument (document : Document) : Opening Replay :=
  if maxLanes < document.cpuCount.toNat then .error ⟨"capacity overflow"⟩
  else
    match document.stray? with
    | some record =>
      .ok (.error (.corrupt
        (.strayRecord record.offset.toNat record.cpu.toNat document.cpuCount.toNat)))
    | none =>
      .ok (.ok
        ⟨document, (Array.range document.cpuCount.toNat).map (Lane.ofList ∘ document.lane)⟩)

def load (content : FileContent) : Opening Replay :=
  match Document.load content with
  | .error fault => .ok (.error fault)
  | .ok document => ofDocument document

def advance (replay : Replay) (cpu : Nat) (step : Lane Record → Option Record × Lane Record) :
    Except SourceFault (Option Record) × Replay :=
  if present : cpu < replay.lanes.size then
    let (record, lane) := step replay.lanes[cpu]
    (.ok record, { replay with lanes := replay.lanes.set cpu lane })
  else (.error (.cpuOutOfRange cpu replay.document.cpuCount.toNat), replay)

def pending (replay : Replay) (cpu : Nat) : Nat :=
  (replay.lanes[cpu]?.map (·.rest.length)).getD 0

theorem pending_advance {replay after : Replay} {cpu : Nat} {record : Record}
    (read : replay.advance cpu Lane.next = (.ok (some record), after)) :
    after.pending cpu < replay.pending cpu := by
  unfold advance at read
  split at read
  · rename_i present
    simp only [Prod.mk.injEq, Except.ok.injEq] at read
    have shorter : (replay.lanes[cpu].next).2.rest.length < replay.lanes[cpu].rest.length :=
      Lane.next_shortens (Prod.ext read.1 rfl)
    rw [← read.2]
    simpa [pending, present] using shorter
  · simp at read

instance : RecordSource Replay where
  cpuCount replay := replay.document.cpuCount.toNat
  restart replay cpu := replay.advance cpu Lane.first
  next replay cpu := replay.advance cpu Lane.next
  recordAt replay offset :=
    match replay.document.records[offset.toNat]? with
    | some record => (.ok (record.at offset.toNat), replay)
    | none => (.error (.noRecordAt offset), replay)
  eventName replay eventId := replay.document.events.find? eventId
  taskName replay pid := replay.document.tasks.find? pid
  infoOf replay record :=
    (replay.document.records[record.offset.toNat]?.bind (·.info)).getD ""
  pending := pending
  pending_next _ _ _ _ := pending_advance

end Replay

end KernelTrace
