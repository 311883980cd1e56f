import KernelTrace.Command.Basic

namespace KernelTrace

structure Stats where
  total : Nat
  lost : UInt64
  perCpu : List (Int32 × Nat)
  /-- The most frequent event first; of equals the lower id. -/
  perEvent : List (Int32 × Nat)
  duration : Option Int64
  deriving DecidableEq, Repr

def Stats.ofEntries (entries : List Entry) : Stats :=
  let counted := entries.filter (!·.isLost)
  { total := counted.length
    lost := (entries.filterMap Entry.lostCount?).foldl (fun sum count => sum + count) 0
    perCpu := tally (counted.map (·.cpu))
    perEvent := (tally (counted.map (·.eventId))).mergeSort fun a b => b.2 ≤ a.2
    duration :=
      match entries.head?, entries.getLast? with
      | some first, some last => some (last.ts - first.ts)
      | _, _ => none }

namespace Stats

def percent (stats : Stats) (count : Nat) : Float :=
  count.toUInt64.toFloat / (max stats.total 1).toUInt64.toFloat * 100.0

def cpuLine (cpu count : String) : String :=
  Text.alignRight 6 cpu ++ " " ++ Text.alignRight 10 count

def eventLine (name count share : String) : String :=
  Text.alignRight 25 name ++ " " ++ Text.alignRight 10 count ++ " " ++ share

def headLines (stats : Stats) (path : String) (cpuCount : Nat) : List String :=
  ["Trace: " ++ path, "CPUs: " ++ toString cpuCount, "Entries: " ++ toString stats.total,
   "Lost events: " ++ toString stats.lost, ""]

def cpuLines (stats : Stats) : List String :=
  cpuLine "CPU" "Count" :: Text.rule 17 ::
    stats.perCpu.map (fun (cpu, count) => cpuLine (toString cpu) (toString count)) ++ [""]

def eventLines (stats : Stats) (nameOf : Int32 → Except Fault (Option String)) :
    Except Fault (List String) := do
  let rows ← stats.perEvent.mapM fun (eventId, count) => do
    let name ← nameOf eventId
    pure (eventLine (name.getD (Session.unknownEvent eventId)) (toString count)
      (Text.alignRight 7 (Fixed.render 1 (stats.percent count)) ++ "%"))
  pure (eventLine "Event" "Count" (Text.alignRight 8 "Percent") :: Text.rule 45 :: rows)

def durationLines (stats : Stats) : List String :=
  match stats.duration with
  | none => []
  | some duration =>
    ["", "Duration: " ++ Fixed.render 3 (duration.toFloat / 1000000.0) ++ " ms"]

end Stats

def statsLines (session : TraceSession) (handle : Handle) (path : String)
    (entries : List Entry) : Except Fault (List String) := do
  let stats := Stats.ofEntries entries
  let stream ← session.stream handle
  let events ← stats.eventLines (session.eventName handle)
  pure (stats.headLines path stream.cpuCount ++ stats.cpuLines ++ events ++ stats.durationLines)

def runStats (files : Files) (config : Option String) (path : String) : Report :=
  .ofLines do
    let (session, handle, entries) ← TraceSession.ofTrace files config path
    (statsLines session handle path entries).mapError Failure.fault

def taskLine (pid name count : String) : String :=
  Text.alignRight 8 pid ++ " " ++ Text.alignLeft 20 name ++ " " ++ Text.alignRight 10 count

def taskLines (session : TraceSession) (handle : Handle) (entries : List Entry) :
    Except Fault (List String) := do
  let pids := (entries.filter (!·.isLost)).map (·.pid)
  let tasks ← session.tasks handle
  let rows ← tasks.ids.mapM fun pid => do
    let name ← session.taskName handle pid
    pure (taskLine (toString pid) (name.getD Session.unknownTask) (toString (pids.count pid)))
  pure (taskLine "PID" "Command" "Entries" :: Text.rule 40 :: rows)

def runTasks (files : Files) (config : Option String) (path : String) : Report :=
  .ofLines do
    let (session, handle, entries) ← TraceSession.ofTrace files config path
    (taskLines session handle entries).mapError Failure.fault

end KernelTrace
