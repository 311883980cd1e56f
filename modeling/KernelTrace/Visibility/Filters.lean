import KernelTrace.Entry
import KernelTrace.Fault
import KernelTrace.Ids

namespace KernelTrace

inductive Subject
  | task
  | event
  | cpu
  deriving DecidableEq, Repr

inductive Side
  | shown
  | hidden
  deriving DecidableEq, Repr

structure IdRule where
  subject : Subject
  side : Side
  id : Int32
  deriving DecidableEq, Repr

/-- Ids to show and ids to hide. An empty set of ids to show admits every id. -/
structure IdGate where
  shown : IdSet := ∅
  hidden : IdSet := ∅

namespace IdGate

def ids (gate : IdGate) : Side → IdSet
  | .shown => gate.shown
  | .hidden => gate.hidden

def put (gate : IdGate) (side : Side) (ids : IdSet) : IdGate :=
  match side with
  | .shown => { gate with shown := ids }
  | .hidden => { gate with hidden := ids }

def isEmpty (gate : IdGate) : Bool := gate.shown.isEmpty && gate.hidden.isEmpty

def passes (gate : IdGate) (id : Int32) : Bool :=
  (gate.shown.isEmpty || gate.shown.contains id) && !gate.hidden.contains id

end IdGate

/-- A content filter judges a record by the record alone. Unlike a plugin it has no state. -/
abbrev ContentTest := Record → Except Panic Bool

structure Filters where
  task : IdGate := {}
  event : IdGate := {}
  cpu : IdGate := {}
  content : Option ContentTest := none

/-- What an unwanted event leaves of a mask: the graph view and the plugin bit. -/
def collapse (visible : UInt8) : UInt8 := visible &&& (View.graph ||| View.untouched)

namespace Filters

def gate (filters : Filters) : Subject → IdGate
  | .task => filters.task
  | .event => filters.event
  | .cpu => filters.cpu

def ids (filters : Filters) (subject : Subject) (side : Side) : IdSet :=
  (filters.gate subject).ids side

def put (filters : Filters) (subject : Subject) (side : Side) (ids : IdSet) : Filters :=
  match subject with
  | .task => { filters with task := filters.task.put side ids }
  | .event => { filters with event := filters.event.put side ids }
  | .cpu => { filters with cpu := filters.cpu.put side ids }

def add (filters : Filters) (rule : IdRule) : Filters :=
  filters.put rule.subject rule.side ((filters.ids rule.subject rule.side).insert rule.id)

def clear (filters : Filters) (subject : Subject) (side : Side) : Filters :=
  filters.put subject side ∅

/-- Whether any set of ids has a member. A content filter does not count. -/
def isSet (filters : Filters) : Bool :=
  !(filters.task.isEmpty && filters.event.isEmpty && filters.cpu.isEmpty)

def setContent (filters : Filters) (test : ContentTest) : Filters :=
  { filters with content := some test }

def clearContent (filters : Filters) : Filters := { filters with content := none }

def hasContent (filters : Filters) : Bool := filters.content.isSome

def admits (filters : Filters) (record : Record) : Except Panic Bool :=
  match filters.content with
  | none => .ok true
  | some test => test record

/-- An unwanted event collapses the mask; an unwanted CPU or task takes the filter mask away. -/
def restrict (filters : Filters) (visible : UInt8) (entry : Entry) (admitted : Bool)
    (mask : UInt8) : UInt8 :=
  let wanted := admitted && filters.event.passes entry.eventId
  let visible := if wanted then visible else collapse visible
  let visible := if filters.cpu.passes entry.cpu then visible else visible &&& ~~~mask
  if filters.task.passes entry.pid then visible else visible &&& ~~~mask

def visibility (filters : Filters) (entry : Entry) (mask : UInt8) : UInt8 :=
  filters.restrict View.all entry true mask

def details (filters : Filters) : String :=
  Text.fields "FilterBank"
    [("show_task", filters.task.shown.details), ("hide_task", filters.task.hidden.details),
     ("show_event", filters.event.shown.details), ("hide_event", filters.event.hidden.details),
     ("show_cpu", filters.cpu.shown.details), ("hide_cpu", filters.cpu.hidden.details),
     ("content", toString filters.hasContent)]

end Filters

inductive ContentRule
  | startsWith (bytes : List UInt8)
  | lengthAtLeast (length : Nat)
  | pidIsNot (pid : Int32)
  | eventIs (eventId : Int32)
  | since (ts : Int64)
  | afterLoss
  | evenOffset
  | nothing
  | panics (payload : String)
  deriving DecidableEq, Repr

def ContentRule.test : ContentRule → ContentTest
  | startsWith bytes, record => .ok (bytes.isPrefixOf record.data)
  | lengthAtLeast length, record => .ok (length ≤ record.data.length)
  | pidIsNot pid, record => .ok (record.pid ≠ pid)
  | eventIs eventId, record => .ok (record.eventId = eventId)
  | since ts, record => .ok (ts ≤ record.ts)
  | afterLoss, record => .ok (0 < record.missed)
  | evenOffset, record => .ok (record.offset % 2 = 0)
  | nothing, _ => .ok false
  | panics payload, _ => .error ⟨payload⟩

end KernelTrace
