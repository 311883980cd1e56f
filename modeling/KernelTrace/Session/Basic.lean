import KernelTrace.Settings
import KernelTrace.Hook.Table
import KernelTrace.Query.Store
import KernelTrace.Registry

namespace KernelTrace

structure Session (S H K : Type) where
  settings : Settings
  streams : Registry S
  hooks : HookTable H := {}
  collections : CollectionStore K := {}
  progress : Nat := 0

namespace Session

variable {S H K : Type}

def create (settings : Settings) : Except Fault (Session S H K) :=
  match settings.validate with
  | .error fault => .error (.settings fault)
  | .ok () => .ok { settings, streams := { limit := settings.maxStreams.toNat } }

/-- Takes effect on the next load or recompute. -/
def setFilterMask (session : Session S H K) (filterMask : UInt8) : Except Fault (Session S H K) :=
  let settings := { session.settings with filterMask }
  match settings.validate with
  | .error fault => .error (.settings fault)
  | .ok () => .ok { session with settings }

def handles (session : Session S H K) : List Handle := session.streams.handles

def stream (session : Session S H K) (handle : Handle) : Except Fault (Stream S) :=
  session.streams.get handle

def modifyStream (session : Session S H K) (handle : Handle) (change : Stream S → Stream S) :
    Session S H K :=
  { session with streams := session.streams.modify handle change }

def updateStream (session : Session S H K) (handle : Handle) (change : Stream S → Stream S) :
    Except Fault (Session S H K) :=
  (session.stream handle).map fun _ => session.modifyStream handle change

def addSource [RecordSource S] (session : Session S H K) (name : String) (source : S) :
    Except Fault (Handle × Session S H K) :=
  (session.streams.insert name source).map fun (handle, streams) =>
    (handle, { session with streams })

def openTrace [RecordSource S] (session : Session S H K) (path : String)
    (opened : Except SourceFault S) : Except Fault (Handle × Session S H K) :=
  match opened with
  | .error cause => .error (.openFailed path cause)
  | .ok source => session.addSource path source

/-- The collections and the hooks of the stream go with it. -/
def close (session : Session S H K) (handle : Handle) : Except Fault (Session S H K) :=
  (session.streams.erase handle).map fun (_, streams) =>
    { session with
      streams
      collections := session.collections.removeStream handle
      hooks := session.hooks.removeStream handle }

def closeAll (session : Session S H K) : Except Fault (Session S H K) :=
  session.handles.foldlM close session

def addFilter (session : Session S H K) (handle : Handle) (rule : IdRule) :
    Except Fault (Session S H K) :=
  session.updateStream handle fun stream => { stream with filters := stream.filters.add rule }

def addFilters (session : Session S H K) (handle : Handle) (rules : List IdRule) :
    Except Fault (Session S H K) :=
  rules.foldlM (addFilter · handle) session

def clearFilter (session : Session S H K) (handle : Handle) (subject : Subject) (side : Side) :
    Except Fault (Session S H K) :=
  session.updateStream handle fun stream =>
    { stream with filters := stream.filters.clear subject side }

/-- Entries already loaded keep their visibility until the stream is loaded again. -/
def setContentTest (session : Session S H K) (handle : Handle) (test : ContentTest) :
    Except Fault (Session S H K) :=
  session.updateStream handle fun stream =>
    { stream with filters := stream.filters.setContent test }

def clearContentTest (session : Session S H K) (handle : Handle) :
    Except Fault (Session S H K) :=
  session.updateStream handle fun stream => { stream with filters := stream.filters.clearContent }

def filterIds (session : Session S H K) (handle : Handle) (subject : Subject) (side : Side) :
    Except Fault IdSet :=
  (session.stream handle).map fun stream => stream.filters.ids subject side

def hasFilters (session : Session S H K) (handle : Handle) : Except Fault Bool :=
  (session.stream handle).map fun stream => stream.filters.isSet

def setClock (session : Session S H K) (handle : Handle) (clock : Clock) :
    Except Fault (Session S H K) :=
  session.updateStream handle fun stream => { stream with clock := some clock }

def clearClock (session : Session S H K) (handle : Handle) : Except Fault (Session S H K) :=
  session.updateStream handle fun stream => { stream with clock := none }

def addHook (session : Session S H K) (eventId : Int32) (handle : Handle) (plugin : H) :
    Except Fault (Session S H K) :=
  (session.stream handle).map fun _ =>
    { session with hooks := session.hooks.add eventId handle plugin }

def removeHook [DecidableEq H] (session : Session S H K) (eventId : Int32)
    (handle : Handle) (plugin : H) : Nat × Session S H K :=
  let (removed, hooks) := session.hooks.remove eventId handle plugin
  (removed, { session with hooks })

def draw {σ : Type} [Plugin H σ] (session : Session S H K) (eventId : Int32)
    (region : Region) : Hosted σ Nat :=
  session.hooks.draw region.stream eventId region

end Session

end KernelTrace
