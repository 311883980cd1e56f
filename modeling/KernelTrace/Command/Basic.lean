import KernelTrace.Command.Arguments
import KernelTrace.Settings
import KernelTrace.Session.Load
import KernelTrace.Session.Reread
import KernelTrace.Trace.Replay

namespace KernelTrace

abbrev Files := String → FileContent

/-- Lines of output and of notices, and the failure that ended the command. -/
structure Report where
  output : List String := []
  notices : List String := []
  failure : Option Failure := none
  deriving DecidableEq, Repr

def Failure.lastWords : Failure → String
  | fault cause => "Error: " ++ cause.message
  | panic cause => "panicked: " ++ cause.payload

def Failure.exitCode : Failure → UInt32
  | fault _ => 1
  | panic _ => 101

instance : Plugin Empty Unit where
  seeRecord plugin := plugin.elim

abbrev TraceSession := Session Replay Empty Empty

def Session.openFile {H K : Type} (session : Session Replay H K) (files : Files) (path : String) :
    Except Failure (Handle × Session Replay H K) :=
  match Replay.load (files path) with
  | .error panic => .error (.panic panic)
  | .ok opened => (session.openTrace path opened).mapError .fault

def SessionStep.perform {S H K α : Type} (step : SessionStep S H K Unit α)
    (session : Session S H K) : Except Failure (α × Session S H K) :=
  match StateT.run (ExceptT.run step) (session, ()) with
  | (.error failure, _) => .error failure
  | (.ok value, session, _) => .ok (value, session)

namespace TraceSession

def start (files : Files) (config : Option String) : Except Fault TraceSession :=
  match config with
  | none => Session.create {}
  | some path =>
    match Settings.load path (files path) with
    | .error fault => .error (.settings fault)
    | .ok settings => Session.create settings

def ofTrace (files : Files) (config : Option String) (path : String) :
    Except Failure (TraceSession × Handle × List Entry) := do
  let session ← (start files config).mapError .fault
  let (handle, session) ← session.openFile files path
  let (entries, session) ← (Session.load handle).perform session
  pure (session, handle, entries)

end TraceSession

def Report.ofLines (lines : Except Failure (List String)) : Report :=
  match lines with
  | .error failure => { failure := some failure }
  | .ok output => { output }

/-- How often each id occurs, by ascending id. -/
def tally (ids : List Int32) : List (Int32 × Nat) :=
  (IdSet.ofList ids).ids.map fun id => (id, ids.count id)

end KernelTrace
