import KernelTrace.Stream

namespace KernelTrace

structure Slot (S : Type) where
  generation : UInt32 := 0
  stream : Option (Stream S) := none

structure Registry (S : Type) where
  slots : List (Slot S) := []
  limit : Nat

namespace Registry

variable {S : Type}

def streams (registry : Registry S) : List (Stream S) := registry.slots.filterMap (·.stream)

def handles (registry : Registry S) : List Handle := registry.streams.map (·.handle)

def size (registry : Registry S) : Nat := registry.streams.length

def isEmpty (registry : Registry S) : Bool := registry.size = 0

/-- The lowest slot without a stream, or a new one. -/
def freeSlot? (registry : Registry S) : Option Nat :=
  match registry.slots.findIdx? (·.stream.isNone) with
  | some slot => some slot
  | none => if registry.slots.length < registry.limit then some registry.slots.length else none

def insert [RecordSource S] (registry : Registry S) (name : String) (source : S) :
    Except Fault (Handle × Registry S) :=
  match registry.freeSlot? with
  | none => .error (.full registry.limit)
  | some slot =>
    if slot < maxSlots then
      let generation := (registry.slots[slot]?.map (·.generation)).getD 0
      let handle : Handle := ⟨UInt16.ofNat slot, generation⟩
      let stream : Stream S :=
        { handle, name, cpuCount := RecordSource.cpuCount source, source }
      let slots :=
        if slot < registry.slots.length then registry.slots.set slot ⟨generation, some stream⟩
        else registry.slots ++ [⟨generation, some stream⟩]
      .ok (handle, { registry with slots })
    else .error (.full registry.limit)

def find? (registry : Registry S) (handle : Handle) : Option (Stream S) :=
  match registry.slots[handle.slot.toNat]? with
  | none => none
  | some slot => if slot.generation = handle.generation then slot.stream else none

def get (registry : Registry S) (handle : Handle) : Except Fault (Stream S) :=
  match registry.find? handle with
  | none => .error (.notOpen handle)
  | some stream => .ok stream

def modify (registry : Registry S) (handle : Handle) (change : Stream S → Stream S) :
    Registry S :=
  match registry.find? handle with
  | none => registry
  | some stream =>
    { registry with
      slots := registry.slots.set handle.slot.toNat ⟨handle.generation, some (change stream)⟩ }

def mapStreams (registry : Registry S) (change : Stream S → Stream S) : Registry S :=
  { registry with
    slots := registry.slots.map fun slot => { slot with stream := slot.stream.map change } }

/-- Closes the stream. Its slot goes to a later one, under the next generation. -/
def erase (registry : Registry S) (handle : Handle) : Except Fault (Stream S × Registry S) :=
  (registry.get handle).map fun stream =>
    (stream, { registry with
      slots := registry.slots.set handle.slot.toNat ⟨handle.generation + 1, none⟩ })

end Registry

end KernelTrace
