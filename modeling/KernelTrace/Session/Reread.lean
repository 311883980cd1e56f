import KernelTrace.Session.Basic

namespace KernelTrace

/-- A step that reads a source: it may move the source, whether it fails or not. -/
abbrev ReadStep (S H K : Type) := ExceptT Fault (StateM (Session S H K))

namespace Session

variable {S H K : Type}

def tasks (session : Session S H K) (handle : Handle) : Except Fault IdSet :=
  (session.stream handle).map (·.tasks)

variable [RecordSource S]

def usableSource (session : Session S H K) (handle : Handle) : Except Fault S :=
  (session.stream handle).bind Stream.usable

def eventName (session : Session S H K) (handle : Handle) (eventId : Int32) :
    Except Fault (Option String) :=
  (session.usableSource handle).map (RecordSource.eventName · eventId)

def taskName (session : Session S H K) (handle : Handle) (pid : Int32) :
    Except Fault (Option String) :=
  (session.usableSource handle).map (RecordSource.taskName · pid)

def recordAt (handle : Handle) (offset : UInt64) : ReadStep S H K Record :=
  ExceptT.mk fun session =>
    match session.usableSource handle with
    | .error fault => (.error fault, session)
    | .ok source =>
      let (result, source) := RecordSource.recordAt source offset
      (result.mapError Fault.source,
       session.modifyStream handle fun stream => { stream with source })

/-- The pid of the record behind the entry, read again only if a plugin has touched the entry. -/
def pidOf (entry : Entry) : ReadStep S H K Int32 :=
  if entry.isUntouched then pure entry.pid
  else do pure (← recordAt entry.stream entry.offset).pid

def eventIdOf (entry : Entry) : ReadStep S H K Int32 :=
  if entry.isUntouched then pure entry.eventId
  else do pure (← recordAt entry.stream entry.offset).eventId

def unknownTask : String := "<...>"

def unknownEvent (eventId : Int32) : String := "event-" ++ toString eventId

def describe (entry : Entry) : ReadStep S H K (String × String) :=
  match entry.lostCount? with
  | some count => pure ("missed_events", "missed_events=" ++ toString count)
  | none => do
    let record ← recordAt entry.stream entry.offset
    let source ← ExceptT.mk do pure ((← get).usableSource entry.stream)
    let event := (RecordSource.eventName source entry.eventId).getD (unknownEvent entry.eventId)
    pure (event, RecordSource.infoOf source record)

def entryLine (entry : Entry) : ReadStep S H K String := do
  let task ← ExceptT.mk do pure ((← get).taskName entry.stream entry.pid)
  let (event, info) ← describe entry
  pure (toString entry.ts ++ "; " ++ task.getD unknownTask ++ "-" ++ toString entry.pid
    ++ "; CPU " ++ toString entry.cpu ++ "; " ++ event ++ "; " ++ info
    ++ "; 0x" ++ Text.hex entry.visible.toNat)

end Session

end KernelTrace
