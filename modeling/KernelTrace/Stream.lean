import KernelTrace.Text
import KernelTrace.Trace.Source
import KernelTrace.Visibility.Filters

/-! Open streams, and the clocks that calibrate their times. Arithmetic on times wraps around at 64
bits. -/

namespace KernelTrace

inductive Clock
  | offset (shift : Int64)
  | linear (shift scale : Int64)
  | custom (transform : Int64 → List Int64 → Int64) (params : List Int64)

namespace Clock

def apply : Clock → Int64 → Int64
  | offset shift, ts => ts + shift
  | linear shift scale, ts => shift + ts * scale
  | custom transform params, ts => transform ts params

def halveThenAdd (ts : Int64) (params : List Int64) : Int64 := ts / 2 + params.headD 0

def clampLow (ts : Int64) (params : List Int64) : Int64 := params.foldl max ts

end Clock

def Clock.details : Clock → String
  | offset shift => "Offset(" ++ toString shift ++ ")"
  | linear shift scale =>
    Text.fields "Linear" [("offset", toString shift), ("scale", toString scale)]
  | custom _ params =>
    Text.fields "Custom" [("func", ".."), ("params", Text.brackets (params.map toString))]

structure Stream (S : Type) where
  handle : Handle
  name : String
  cpuCount : Nat
  source : S
  poisoned : Bool := false
  filters : Filters := {}
  tasks : IdSet := ∅
  clock : Option Clock := none

namespace Stream

variable {S : Type}

def details (stream : Stream S) : String :=
  Text.fields "Stream"
    [("id", stream.handle.details), ("name", Quoted.encode stream.name),
     ("n_cpus", toString stream.cpuCount), ("filters", stream.filters.details),
     ("tasks", toString stream.tasks.size),
     ("calibration", stream.clock.elim "None" fun clock => "Some(" ++ clock.details ++ ")")]

def usable (stream : Stream S) : Except Fault S :=
  if stream.poisoned then .error (.source (.corrupt (.poisoned stream.handle)))
  else .ok stream.source

end Stream

end KernelTrace
