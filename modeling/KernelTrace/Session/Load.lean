import KernelTrace.Load
import KernelTrace.Session.Basic

namespace KernelTrace

variable {S H K σ : Type}

/-- A step that runs plugins: what it does to the session and to their state outlives a failure. -/
abbrev SessionStep (S H K σ : Type) := ExceptT Failure (StateM (Session S H K × σ))

namespace SessionStep

def mapSession (change : Session S H K → Session S H K) : SessionStep S H K σ Unit :=
  modify fun (session, host) => (change session, host)

def ofChange (change : Session S H K → Except Fault (Session S H K)) :
    SessionStep S H K σ Unit :=
  ExceptT.mk fun (session, host) =>
    match change session with
    | .error fault => (.error (.fault fault), session, host)
    | .ok session => (.ok (), session, host)

end SessionStep

namespace Session

def loader (session : Session S H K) (stream : Stream S) : Loader H where
  stream := stream.handle
  filters := stream.filters
  clock := stream.clock
  hooks := session.hooks
  mask := session.settings.filterMask

/-- A panic spoils the source. Only a load that succeeds adds tasks and drops indexes. -/
def settle (session : Session S H K) (handle : Handle) (source : S) (report : LoadReport) :
    Session S H K :=
  let session := { session with progress := session.progress + report.completed }
  match report.outcome with
  | .error (.panic _) =>
    session.modifyStream handle fun stream => { stream with source, poisoned := true }
  | .error (.fault _) => session.modifyStream handle fun stream => { stream with source }
  | .ok loaded =>
    let session := session.modifyStream handle fun stream =>
      { stream with source, tasks := stream.tasks.union loaded.tasks }
    { session with collections := session.collections.resetStream handle }

variable [RecordSource S] [Plugin H σ]

def readStream (handle : Handle) : SessionStep S H K σ (List Entry) :=
  ExceptT.mk fun (session, host) =>
    match session.stream handle with
    | .error fault => (.error (.fault fault), session, host)
    | .ok stream =>
      match stream.usable with
      | .error fault => (.error (.fault fault), session, host)
      | .ok source =>
        let (report, source, host) := (session.loader stream).run source host
        (report.outcome.map (·.entries), session.settle handle source report, host)

def startProgress (session : Session S H K) : Session S H K := { session with progress := 0 }

def load (handle : Handle) : SessionStep S H K σ (List Entry) := do
  SessionStep.mapSession startProgress
  readStream handle

/-- Loads every open stream in slot order; on equal times the lower slot goes first. -/
def loadAll : SessionStep S H K σ (List Entry) := do
  SessionStep.mapSession startProgress
  let (session, _) ← get
  let merged ← session.handles.foldlM
    (fun merged handle => do
      let entries ← readStream handle
      pure (mergePair merged entries))
    []
  SessionStep.mapSession fun session =>
    { session with collections := session.collections.resetAll }
  pure merged

/-- Loads a stream, with a new clock if one is given, and merges it into earlier entries, which are in
time order. Every position among those moves, so the collections of their streams are reset as
well. -/
def append (prior : List Entry) (handle : Handle) (clock : Option Clock) :
    SessionStep S H K σ (List Entry) := do
  match clock with
  | none => pure ()
  | some clock => SessionStep.ofChange fun session => session.setClock handle clock
  let entries ← load handle
  SessionStep.mapSession fun session =>
    { session with
      collections := session.collections.resetStreams (prior.map (·.stream)).eraseDups }
  pure (mergePair prior entries)

end Session

end KernelTrace
