import KernelTrace.Stream
import KernelTrace.Visibility.Filters
import KernelTrace.Hook.Table
import KernelTrace.Trace.Reading
import KernelTrace.Timeline

namespace KernelTrace

def lossLead : Int64 := 10

/-- The earlier time, but not before the earliest. -/
def backBy (lead ts : Int64) : Int64 :=
  if ts.toInt - lead.toInt < Int64.minValue.toInt then Int64.minValue else ts - lead

structure Loader (H : Type) where
  stream : Handle
  filters : Filters := {}
  clock : Option Clock := none
  hooks : HookTable H := {}
  mask : UInt8

namespace Loader

variable {H σ : Type} [Plugin H σ]

def time (loader : Loader H) (ts : Int64) : Int64 :=
  match loader.clock with
  | none => ts
  | some clock => clock.apply ts

/-- The marker of the events lost before this record, never earlier than the entry before it. -/
def marker (loader : Loader H) (record : Record) (previous : Option Int64) : Entry :=
  let ts := loader.time (backBy lossLead record.ts)
  { stream := loader.stream
    cpu := record.cpu.toInt32
    pid := record.pid
    eventId := Entry.lostId
    ts := previous.elim ts (max ts)
    offset := record.missed
    visible := View.all }

def draft (loader : Loader H) (record : Record) : Entry where
  stream := loader.stream
  cpu := record.cpu.toInt32
  pid := record.pid
  eventId := record.eventId
  ts := loader.time record.ts
  offset := record.offset
  visible := View.all

/-- Plugins first, then the content filter, then the id filters on what the plugins left. -/
def entry (loader : Loader H) (record : Record) : Hosted σ Entry := do
  let (fired, entry) ← loader.hooks.dispatch record (loader.draft record)
  let visible := if fired.isEmpty then entry.visible else entry.visible &&& ~~~View.untouched
  let admitted ← ExceptT.mk (pure (loader.filters.admits record))
  pure { entry with visible := loader.filters.restrict visible entry admitted loader.mask }

structure Built (α : Type) where
  made : α
  panic : Option Panic := none

def build (loader : Loader H) : List Record → σ → Built (List (Record × Entry)) × σ
  | [], host => (⟨[], none⟩, host)
  | record :: records, host =>
    match (loader.entry record).run.run host with
    | (.error panic, host) => (⟨[], some panic⟩, host)
    | (.ok entry, host) =>
      let (built, host) := loader.build records host
      ({ built with made := (record, entry) :: built.made }, host)

def buildLanes (loader : Loader H) :
    List (List Record) → σ → Built (List (List (Record × Entry))) × σ
  | [], host => (⟨[], none⟩, host)
  | lane :: lanes, host =>
    let (first, host) := loader.build lane host
    match first.panic with
    | some panic => (⟨[first.made], some panic⟩, host)
    | none =>
      let (built, host) := loader.buildLanes lanes host
      ({ built with made := first.made :: built.made }, host)

def withMarkers (loader : Loader H) (previous : Option Int64) :
    List (Record × Entry) → List Entry
  | [] => []
  | (record, entry) :: rest =>
    if record.missed = 0 then entry :: loader.withMarkers (some entry.ts) rest
    else loader.marker record previous :: entry :: loader.withMarkers (some entry.ts) rest

end Loader

structure LoadResult where
  entries : List Entry
  tasks : IdSet

/-- What became of a load, and how many records it completed. -/
structure LoadReport where
  outcome : Except Failure LoadResult
  completed : Nat

namespace Loader

variable {H S σ : Type} [Plugin H σ] [RecordSource S]

/-- A panic strikes before the fault that ended the reading, for its record was read before. -/
def run (loader : Loader H) (source : S) (host : σ) : LoadReport × S × σ :=
  let (reading, source) := readAll source
  let (built, host) := loader.buildLanes reading.lanes host
  let outcome : Except Failure LoadResult :=
    match built.panic, reading.fault with
    | some panic, _ => .error (.panic panic)
    | none, some fault => .error (.fault (.source fault))
    | none, none =>
      .ok
        { entries := mergeLanes (built.made.map (loader.withMarkers none))
          tasks := .ofList (built.made.flatten.map (·.2.pid)) }
  (⟨outcome, built.made.flatten.length⟩, source, host)

end Loader

end KernelTrace
