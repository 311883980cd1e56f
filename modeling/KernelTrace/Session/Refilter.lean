import KernelTrace.Session.Basic

namespace KernelTrace

/-- The mask with every view bit set and the plugin bit as it was. -/
def keepTouch (visible mask : UInt8) : UInt8 := mask &&& (visible ||| ~~~View.untouched)

/-- A loss marker is never filtered. -/
def Filters.reapply (filters : Filters) (mask : UInt8) (entry : Entry) : Entry :=
  if entry.isLost then entry
  else { entry with visible := keepTouch entry.visible (filters.visibility entry mask) }

def streamsOf (entries : List Entry) : List Handle :=
  (entries.map (·.stream)).eraseDups.mergeSort fun a b => !b.precedes a

namespace Session

variable {S H K : Type}

def idFilters (session : Session S H K) (handle : Handle) : Except Fault Filters :=
  match session.stream handle with
  | .error fault => .error fault
  | .ok stream =>
    if stream.filters.hasContent then .error (.contentFiltered handle)
    else .ok stream.filters

def refilter (session : Session S H K) (handle : Handle) (entries : List Entry) :
    Except Fault (List Entry × Session S H K) :=
  (session.idFilters handle).map fun filters =>
    (entries.map fun entry =>
        if entry.stream = handle then filters.reapply session.settings.filterMask entry else entry,
     { session with collections := session.collections.resetStream handle })

/-- Each entry by the filters of its own stream. Nothing changes unless all streams allow it. -/
def refilterAll (session : Session S H K) (entries : List Entry) :
    Except Fault (List Entry × Session S H K) := do
  let streams := streamsOf entries
  streams.forM fun handle => (session.idFilters handle).map fun _ => ()
  let refiltered ← entries.mapM fun entry =>
    (session.idFilters entry.stream).map fun filters =>
      filters.reapply session.settings.filterMask entry
  pure (refiltered, { session with collections := session.collections.resetStreams streams })

/-- Drops every filter, content filters too, and makes every entry visible. -/
def clearFilters (session : Session S H K) (entries : List Entry) :
    List Entry × Session S H K :=
  (entries.map fun entry => { entry with visible := keepTouch entry.visible View.all },
   { session with
     streams := session.streams.mapStreams fun stream => { stream with filters := {} }
     collections := session.collections.resetAll })

end Session

end KernelTrace
