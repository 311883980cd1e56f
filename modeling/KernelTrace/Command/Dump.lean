import KernelTrace.Command.Basic

namespace KernelTrace

namespace Options

def rules (options : Options) : List IdRule :=
  options.hidePids.map (⟨.task, .hidden, ·⟩) ++ options.showEvents.map (⟨.event, .shown, ·⟩)
    ++ options.hideCpus.map (⟨.cpu, .hidden, ·⟩)

def selects (options : Options) (entry : Entry) : Bool :=
  options.all || entry.isVisible View.text

def select (options : Options) (entries : List Entry) : List Entry :=
  let selected := entries.filter options.selects
  match options.limit with
  | none => selected
  | some limit => selected.take limit

end Options

/-- Opens the traces one by one and appends each, with the offset of the same place as its clock. -/
def appendTraces (files : Files) (rules : List IdRule) :
    List String → List Int64 → List Entry → TraceSession →
      Except Failure (List Entry × TraceSession)
  | [], _, entries, session => .ok (entries, session)
  | path :: paths, offsets, entries, session => do
    let (handle, session) ← session.openFile files path
    let session ← (session.addFilters handle rules).mapError Failure.fault
    let clock := offsets.head?.map Clock.offset
    let (entries, session) ← (Session.append entries handle clock).perform session
    appendTraces files rules paths offsets.tail entries session

/-- The lines of the entries up to the first that fails, and that failure. -/
def dumpLines (session : TraceSession) : List Entry → List String × Option Failure
  | [] => ([], none)
  | entry :: entries =>
    match StateT.run (ExceptT.run (Session.entryLine entry)) session with
    | (.error fault, _) => ([], some (.fault fault))
    | (.ok line, session) =>
      let (lines, failure) := dumpLines session entries
      (line :: lines, failure)

def runDump (files : Files) (config : Option String) (options : Options) : Report :=
  let loaded := do
    let session ← (TraceSession.start files config).mapError Failure.fault
    appendTraces files options.rules options.traces options.offsets [] session
  match loaded with
  | .error failure => { failure := some failure }
  | .ok (entries, session) =>
    let (output, failure) := dumpLines session (options.select entries)
    let notice := "Loaded " ++ toString entries.length ++ " entries from "
      ++ toString options.traces.length ++ " traces"
    { output, notices := [notice], failure }

end KernelTrace
