import KernelTrace.Trace.Source

namespace KernelTrace

variable {S : Type} [RecordSource S]

structure LaneReading where
  records : List Record := []
  fault : Option SourceFault := none
  deriving DecidableEq, Repr

def readRest (s : S) (cpu : Nat) : LaneReading × S :=
  match _read : RecordSource.next s cpu with
  | (.error fault, s') => ({ fault := some fault }, s')
  | (.ok none, s') => ({}, s')
  | (.ok (some record), s') =>
    let (reading, last) := readRest s' cpu
    ({ reading with records := record :: reading.records }, last)
termination_by RecordSource.pending s cpu
decreasing_by exact RecordSource.pending_next _ _ _ _ _read

def readLane (s : S) (cpu : Nat) : LaneReading × S :=
  match RecordSource.restart s cpu with
  | (.error fault, s') => ({ fault := some fault }, s')
  | (.ok none, s') => ({}, s')
  | (.ok (some record), s') =>
    let (reading, last) := readRest s' cpu
    ({ reading with records := record :: reading.records }, last)

/-- The records read from several CPUs. A fault ends the reading; what came before it is kept. -/
structure Reading where
  lanes : List (List Record) := []
  fault : Option SourceFault := none
  deriving DecidableEq, Repr

def readLanes (s : S) (cpu : Nat) : Nat → Reading × S
  | 0 => ({}, s)
  | count + 1 =>
    let (lane, s) := readLane s cpu
    match lane.fault with
    | some fault => (⟨[lane.records], some fault⟩, s)
    | none =>
      let (reading, s) := readLanes s (cpu + 1) count
      ({ reading with lanes := lane.records :: reading.lanes }, s)

def readAll (s : S) : Reading × S := readLanes s 0 (RecordSource.cpuCount s)

end KernelTrace
