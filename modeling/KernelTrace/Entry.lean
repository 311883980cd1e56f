import KernelTrace.Text

namespace KernelTrace

/-- The slot a stream sits in, and how often that slot was given back before. -/
structure Handle where
  slot : UInt16
  generation : UInt32
  deriving DecidableEq, Repr

namespace Handle

def label (handle : Handle) : String := "sd" ++ toString handle.slot

def details (handle : Handle) : String :=
  Text.fields "StreamId"
    [("slot", toString handle.slot), ("generation", toString handle.generation)]

def precedes (a b : Handle) : Bool :=
  a.slot < b.slot || (a.slot = b.slot && a.generation < b.generation)

end Handle

namespace View

def graph : UInt8 := 0x01

def text : UInt8 := 0x02

def event : UInt8 := 0x04

def untouched : UInt8 := 0x80

def all : UInt8 := 0xFF

end View

structure Record where
  ts : Int64
  cpu : UInt32
  pid : Int32
  eventId : Int32
  offset : UInt64
  /-- How many events were lost just before this one. -/
  missed : UInt64 := 0
  data : List UInt8 := []
  deriving DecidableEq, Repr

/-- A loss marker carries the number of lost events as its offset. -/
structure Entry where
  stream : Handle
  cpu : Int32
  pid : Int32
  eventId : Int32
  ts : Int64
  offset : UInt64
  visible : UInt8
  deriving DecidableEq, Repr

namespace Entry

/-- The event id that only loss markers carry. -/
def lostId : Int32 := -75

def isLost (entry : Entry) : Bool := entry.eventId = lostId

def lostCount? (entry : Entry) : Option UInt64 :=
  if entry.isLost then some entry.offset else none

def isVisible (entry : Entry) (mask : UInt8) : Bool := entry.visible &&& mask ≠ 0

def isUntouched (entry : Entry) : Bool := entry.isVisible View.untouched

def line (entry : Entry) : String :=
  "[" ++ entry.stream.label ++ "] " ++ Text.alignRight 16 (toString entry.ts)
    ++ " cpu=" ++ Text.alignLeft 3 (toString entry.cpu)
    ++ " pid=" ++ Text.alignLeft 7 (toString entry.pid)
    ++ " event=" ++ Text.alignLeft 5 (toString entry.eventId)
    ++ " vis=" ++ Text.hexByte entry.visible

end Entry

end KernelTrace
