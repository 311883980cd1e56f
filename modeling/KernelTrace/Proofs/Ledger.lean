import KernelTrace.Proofs.Ingests
import KernelTrace.Proofs.Lifetimes

namespace KernelTrace

variable {S H K σ : Type}

namespace Action

/-- The streams that the action loads, in this order, until a load fails. -/
def targets (session : Session S H K) : Action S H K → List Handle
  | .load handle => [handle]
  | .append _ handle _ => [handle]
  | .loadAll => session.handles
  | _ => []

def prepared (session : Session S H K) : Action S H K → Session S H K
  | .append _ handle clock => (session.clocked handle clock).startProgress
  | _ => session.startProgress

variable [RecordSource S] [Plugin H σ]

def ingests (action : Action S H K) (session : Session S H K) (host : σ) : List Ingest :=
  Session.ingests (action.targets session) (action.prepared session, host)

theorem ingests_of_loadless {action : Action S H K} {session : Session S H K} {host : σ}
    (loadless : action.loads = false) : action.ingests session host = [] := by
  cases action <;> first | rfl | cases loadless

end Action

namespace Session

variable {session after : Session S H K} {handle : Handle} {host : σ} {log : List Ingest}

theorem seen_of_closed {fault : Fault} (missing : session.stream handle = .error fault) :
    session.seen handle = [] := by
  rw [seen, missing]

theorem Accounts.close (accounts : session.Accounts log) (closes : session.ClosesOff handle after) :
    after.Accounts (log.filter (·.stream ∉ [handle])) := by
  intro other pid
  by_cases same : other = handle
  · subst same
    rw [seen_of_closed closes.gone]
    simp only [List.not_mem_nil, false_iff, List.mem_filter]
    grind
  · rw [seen_congr (closes.others other same), accounts other pid]
    simp only [List.mem_filter, List.mem_singleton, decide_eq_true_eq]
    grind

theorem Accounts.closeAll (accounts : session.Accounts log) (sound : session.Sound)
    (soundly : after.Sound) (none : after.handles = []) :
    after.Accounts (log.filter (·.stream ∉ session.handles.reverse)) := by
  intro handle pid
  have closed : after.seen handle = [] := by
    cases found : after.stream handle with
    | error fault => exact seen_of_closed found
    | ok stream =>
        have member : handle ∈ after.handles :=
          soundly.coherent.mem_handles.mpr ⟨stream, Registry.get_eq_ok.mp found⟩
        rw [none] at member
        cases member
  rw [closed]
  simp only [List.not_mem_nil, false_iff]
  intro ⟨ingest, kept, named, member⟩
  obtain ⟨present, gone⟩ := List.mem_filter.mp kept
  have before := (accounts handle pid).mpr ⟨ingest, present, named, member⟩
  cases found : session.stream handle with
  | error fault =>
      rw [seen_of_closed found] at before
      cases before
  | ok stream =>
      have held : handle ∈ session.handles :=
        sound.coherent.mem_handles.mpr ⟨stream, Registry.get_eq_ok.mp found⟩
      simp [named, held] at gone

structure KeepsTasks (session after : Session S H K) : Prop where
  opened : ∀ handle tasks, session.tasks handle = .ok tasks → after.tasks handle = .ok tasks
  fresh : ∀ handle fault tasks, session.tasks handle = .error fault →
    after.tasks handle = .ok tasks → tasks = ∅

theorem keepsTasks_of_tasks (same : ∀ handle, after.tasks handle = session.tasks handle) :
    KeepsTasks session after where
  opened handle tasks found := by rw [same, found]
  fresh handle fault tasks missing found := by
    rw [same, missing] at found
    cases found

theorem keepsTasks_of_streams (same : after.streams = session.streams) :
    KeepsTasks session after := by
  apply keepsTasks_of_tasks
  intro handle
  rw [tasks, tasks, stream, stream, same]

theorem KeepsTasks.seen (keeps : KeepsTasks session after) (handle : Handle) :
    after.seen handle = session.seen handle := by
  have opened := keeps.opened handle
  have fresh := keeps.fresh handle
  unfold tasks at opened fresh
  unfold Session.seen
  cases before : session.stream handle with
  | ok stream =>
      rw [before] at opened
      obtain ⟨later, found, same⟩ := map_eq_ok.mp (opened stream.tasks rfl)
      rw [found]
      exact congrArg IdSet.ids same
  | error fault =>
      cases later : after.stream handle with
      | error _ => rfl
      | ok stream =>
          rw [before, later] at fresh
          exact congrArg IdSet.ids (fresh fault stream.tasks rfl rfl)

theorem keepsTasks_modify {change : Stream S → Stream S}
    (same : ∀ stream, (change stream).tasks = stream.tasks) :
    KeepsTasks session (session.modifyStream handle change) := by
  apply keepsTasks_of_tasks
  intro other
  by_cases here : other = handle
  · subst here
    rw [tasks, tasks, stream_modify]
    cases session.stream other with
    | error fault => rfl
    | ok stream => exact congrArg Except.ok (same stream)
  · rw [tasks, tasks, stream_modify_of_ne here]

theorem keepsTasks_of_updateStream {change : Stream S → Stream S}
    (same : ∀ stream, (change stream).tasks = stream.tasks)
    (updated : session.updateStream handle change = .ok after) : KeepsTasks session after := by
  obtain ⟨_, _, rfl⟩ := map_eq_ok.mp updated
  exact keepsTasks_modify same

theorem keepsTasks_clocked (handle : Handle) (clock : Option Clock) :
    KeepsTasks session (session.clocked handle clock) := by
  cases clock with
  | none => exact keepsTasks_of_streams rfl
  | some clock => exact keepsTasks_modify fun _ => rfl

theorem keepsTasks_of_clearFilters (entries : List Entry) :
    KeepsTasks session (session.clearFilters entries).2 := by
  apply keepsTasks_of_tasks
  intro handle
  rw [tasks, tasks, stream_clearFilters]
  cases session.stream handle <;> rfl

theorem keepsTasks_of_quietly {change : Session S H K → Except Fault (Session S H K)}
    (each : ∀ after, change session = .ok after → KeepsTasks session after) :
    KeepsTasks session (runFrom (perform.quietly change) (session, host)).2.1 := by
  cases changed : change session with
  | error fault =>
      rw [quietly_of_error changed]
      exact keepsTasks_of_streams rfl
  | ok after =>
      rw [quietly_of_ok changed]
      exact each after changed

theorem keepsTasks_of_answering
    {change : Session S H K → Except Fault (List Entry × Session S H K)}
    (each : ∀ entries after, change session = .ok (entries, after) → KeepsTasks session after) :
    KeepsTasks session (runFrom (perform.answering change) (session, host)).2.1 := by
  cases changed : change session with
  | error fault =>
      rw [answering_of_error changed]
      exact keepsTasks_of_streams rfl
  | ok answered =>
      have answers : runFrom (SessionStep.ofAnswer change) (session, host) =
          (.ok answered.1, answered.2, host) := by
        rw [SessionStep.ofAnswer, runFrom_mk]
        simp only [changed]
      rw [perform.answering, runFrom_bind_ok answers]
      exact each answered.1 answered.2 changed

variable [RecordSource S]

theorem keepsTasks_of_addSource {name : String} {source : S}
    (added : session.addSource name source = .ok (handle, after)) : KeepsTasks session after := by
  obtain ⟨⟨fresh, streams⟩, inserted, made⟩ := map_eq_ok.mp added
  cases made
  have vacant : ∀ stream, session.stream handle ≠ .ok stream := by
    intro stream found
    cases (Registry.find?_before_insert inserted).symm.trans (Registry.get_eq_ok.mp found)
  have stands : ∀ other, ({ session with streams := streams } : Session S H K).stream other =
      if other = handle then .ok (.ofSource handle name source) else session.stream other :=
    Registry.get_insert inserted
  constructor
  · intro other tasks found
    obtain ⟨stream, opened, _⟩ := map_eq_ok.mp found
    have differ : other ≠ handle := by
      rintro rfl
      exact vacant stream opened
    rw [Session.tasks, stands, if_neg differ]
    exact found
  · intro other fault tasks missing found
    rw [Session.tasks, stands] at found
    split at found
    · cases found
      rfl
    · rw [Session.tasks] at missing
      rw [missing] at found
      cases found

theorem keepsTasks_of_openTrace {path : String} {opened : Except SourceFault S}
    (added : session.openTrace path opened = .ok (handle, after)) : KeepsTasks session after := by
  cases opened with
  | error cause => cases added
  | ok source => exact keepsTasks_of_addSource added

theorem Unmoved.keepsTasks (unmoved : Unmoved session after) : KeepsTasks session after := by
  apply keepsTasks_of_tasks
  intro handle
  rw [tasks, tasks]
  cases found : session.stream handle with
  | ok stream =>
      obtain ⟨source, _, there⟩ := unmoved.1.opened handle stream found
      rw [there]
      rfl
  | error fault => rw [unmoved.1.closed handle fault found]

theorem keepsTasks_of_reading {α : Type} {step : ReadStep S H K α}
    (follows : Follows Unmoved id step) :
    KeepsTasks session (runFrom (perform.reading step) (session, host)).2.1 := by
  have kept := (unmoved_of_moves (follows session)).keepsTasks
  have read : (runFrom (SessionStep.ofRead step) (session, host)).2.1 =
    (runFrom step session).2 := rfl
  rw [perform.reading, runFrom_bind]
  split <;> rename_i ran <;> rw [ran] at read <;> exact read ▸ kept

variable [Plugin H σ] [DecidableEq H] [DecidableEq K] [Condition K] {action : Action S H K}

theorem keepsTasks_of_perform (loadless : action.loads = false)
    (closesNone : action ≠ .closeAll ∧ ∀ handle, action ≠ .close handle) :
    KeepsTasks session (runFrom (perform action) (session, host)).2.1 := by
  cases action with
  | load | loadAll | append => cases loadless
  | closeAll => exact absurd rfl closesNone.1
  | close handle => exact absurd rfl (closesNone.2 handle)
  | setFilterMask filterMask =>
      apply keepsTasks_of_quietly
      intro after masked
      obtain ⟨_, rfl⟩ := setFilterMask_eq_ok masked
      exact keepsTasks_of_streams rfl
  | openTrace path opened =>
      apply keepsTasks_of_quietly
      intro after added
      obtain ⟨⟨handle, _⟩, opened, rfl⟩ := map_eq_ok.mp added
      exact keepsTasks_of_openTrace opened
  | addSource name source =>
      apply keepsTasks_of_quietly
      intro after added
      obtain ⟨⟨handle, _⟩, inserted, rfl⟩ := map_eq_ok.mp added
      exact keepsTasks_of_addSource inserted
  | addFilter | clearFilter | setContentTest | clearContentTest | setClock | clearClock =>
      exact keepsTasks_of_quietly fun after => keepsTasks_of_updateStream fun _ => rfl
  | draw eventId region =>
      have drawn : (runFrom (SessionStep.ofHosted fun session => session.draw eventId region)
        (session, host)).2.1 = session := rfl
      rw [perform, runFrom_bind]
      split <;> rename_i ran <;> rw [ran] at drawn <;> exact keepsTasks_of_streams (drawn ▸ rfl)
  | refilter handle entries =>
      apply keepsTasks_of_answering
      intro entries after done
      obtain ⟨_, _, rfl⟩ := refilter_eq_ok done
      exact keepsTasks_of_streams rfl
  | refilterAll entries =>
      apply keepsTasks_of_answering
      intro entries after done
      obtain ⟨_, _, rfl⟩ := refilterAll_eq_ok done
      exact keepsTasks_of_streams rfl
  | clearFilters entries =>
      apply keepsTasks_of_answering
      intro cleared after done
      cases done
      exact keepsTasks_of_clearFilters entries
  | recordAt handle offset => exact keepsTasks_of_reading (unmoved_of_recordAt handle offset)
  | pidOf entry => exact keepsTasks_of_reading (follows_pidOf unmoved_of_recordAt entry)
  | eventIdOf entry => exact keepsTasks_of_reading (follows_eventIdOf unmoved_of_recordAt entry)
  | entryLine entry => exact keepsTasks_of_reading (follows_entryLine unmoved_of_recordAt entry)
  | addHook | addCollection | removeCollection | resetCollection =>
      apply keepsTasks_of_quietly
      intro after changed
      obtain ⟨_, _, rfl⟩ := map_eq_ok.mp changed
      exact keepsTasks_of_streams rfl
  | removeHook | dropDense =>
      apply keepsTasks_of_quietly
      intro after changed
      cases changed
      exact keepsTasks_of_streams rfl
  | firstFrom | lastUpTo =>
      apply keepsTasks_of_quietly
      intro after asked
      obtain ⟨_, queried, rfl⟩ := map_eq_ok.mp asked
      obtain ⟨_, _, rfl⟩ := map_eq_ok.mp queried
      exact keepsTasks_of_streams rfl

theorem tasks_of_loadless (sound : session.Sound) (loadless : action.loads = false)
    (spares : action.Spares handle) {tasks : IdSet} (found : session.tasks handle = .ok tasks) :
    (runFrom (perform action) (session, host)).2.1.tasks handle = .ok tasks := by
  cases action with
  | closeAll => exact absurd rfl spares.2
  | close other =>
      have differ : handle ≠ other := fun same => spares.1 (same ▸ rfl)
      cases closed : session.close other with
      | error fault =>
          rw [perform, quietly_of_error closed]
          exact found
      | ok after =>
          rw [perform, quietly_of_ok closed]
          rw [Session.tasks, (sound.closesOff closed).others handle differ]
          exact found
  | _ => exact (keepsTasks_of_perform loadless (by simp)).opened handle tasks found

/-- An action that loads reads its streams one after the other, until one fails. -/
theorem perform_runs_like_fold (loads : action.loads = true) (session : Session S H K) (host : σ) :
    RunsLike (perform action) (session, host) ((action.targets session).foldlM mergeNext [])
      (action.prepared session, host) := by
  cases action with
  | load handle =>
      rw [RunsLike, perform, succeeds_bind_pure, runFrom_bind_pure]
      exact load_runs_like_fold handle session host
  | loadAll =>
      rw [RunsLike, perform, succeeds_bind_pure, runFrom_bind_pure]
      exact loadAll_runs_like_fold session host
  | append prior handle clock =>
      rw [RunsLike, perform, succeeds_bind_pure, runFrom_bind_pure]
      exact append_runs_like_fold prior handle clock session host
  | _ => cases loads

def logAfter (session : Session S H K) (action : Action S H K) (host : σ) (log : List Ingest) :
    List Ingest :=
  log.filter (·.stream ∉ action.closes session) ++ action.ingests session host

/-- A session that callers can reach, with what was ingested on the way by the streams that are still
open. -/
inductive Logged : Session S H K → List Ingest → Prop
  | created {settings : Settings} {session : Session S H K} :
      Session.create settings = .ok session → Logged session []
  | acted {session : Session S H K} {log : List Ingest} {host : σ} (action : Action S H K) :
      Logged session log →
      Logged (runFrom (perform action) (session, host)).2.1 (session.logAfter action host log)

theorem reachable_iff_logged : Reachable session ↔ ∃ log, Logged session log := by
  constructor
  · intro reachable
    induction reachable with
    | created created => exact ⟨[], .created created⟩
    | acted action _ ih =>
        obtain ⟨log, logged⟩ := ih
        exact ⟨_, .acted action logged⟩
  · intro ⟨log, logged⟩
    induction logged with
    | created created => exact .created created
    | acted action _ ih => exact .acted action ih

theorem Accounts.load (accounts : session.Accounts log) (loads : action.loads = true) (host : σ) :
    (runFrom (perform action) (session, host)).2.1.Accounts (session.logAfter action host log) := by
  have ready : (action.prepared session).Accounts log := by
    refine accounts.congr fun handle => ?_
    cases action with
    | append _ loaded clock => exact (keepsTasks_clocked loaded clock).seen handle
    | _ => rfl
  have spared : log.filter (·.stream ∉ action.closes session) = log := by
    cases action with
    | load | loadAll | append => simp [Action.closes]
    | _ => cases loads
  have folded := ready.fold (action.targets session) [] host
  rw [logAfter, spared]
  exact folded.congr (seen_of_streams (perform_runs_like_fold loads session host).1)

theorem Accounts.keep (accounts : session.Accounts log) (loadless : action.loads = false)
    (closesNone : action ≠ .closeAll ∧ ∀ handle, action ≠ .close handle) (host : σ) :
    (runFrom (perform action) (session, host)).2.1.Accounts (session.logAfter action host log) := by
  have spared : log.filter (·.stream ∉ action.closes session) = log := by
    cases action with
    | closeAll => exact absurd rfl closesNone.1
    | close handle => exact absurd rfl (closesNone.2 handle)
    | _ => simp [Action.closes]
  rw [logAfter, spared, Action.ingests_of_loadless loadless, List.append_nil]
  exact accounts.congr (keepsTasks_of_perform loadless closesNone).seen

theorem Logged.accounts (logged : Logged session log) : session.Accounts log := by
  induction logged with
  | created created =>
      obtain ⟨_, rfl⟩ := create_eq_ok created
      intro handle pid
      simp only [List.not_mem_nil, false_and, exists_false, iff_false]
      exact List.not_mem_nil
  | @acted session log host action logged ih =>
      have sound := (reachable_iff_logged.mpr ⟨log, logged⟩).sound
      cases action with
      | close handle =>
          rw [logAfter, Action.ingests_of_loadless rfl, List.append_nil]
          cases made : session.close handle with
          | ok after =>
              have member := sound.close_eq_ok_iff.mp ⟨after, made⟩
              rw [perform, quietly_of_ok made, Action.closes, if_pos member]
              exact ih.close (sound.closesOff made)
          | error fault =>
              have absent : handle ∉ session.handles := by
                intro member
                obtain ⟨after, closed⟩ := sound.close_eq_ok_iff.mpr member
                cases made.symm.trans closed
              rw [perform, quietly_of_error made, Action.closes, if_neg absent]
              simpa using ih
      | closeAll =>
          obtain ⟨after, made⟩ := sound.closeAll_eq_ok
          have none : after.handles = [] := by simp [sound.handles_of_foldlM made]
          have soundly := sound_of_moves (moves_of_closeAll made) sound
          rw [logAfter, Action.ingests_of_loadless rfl, List.append_nil, perform, quietly_of_ok made]
          exact ih.closeAll sound soundly none
      | load | loadAll | append => exact ih.load rfl host
      | _ => exact ih.keep rfl (by simp) host

/-- The tasks of an open stream are exactly what its ingests have seen, in every session that callers
can reach, with this log of them.

* They are the pids, in ascending order, of the entries made of records by the ingests of the stream
  since it was opened.
* An ingest is a whole load: it pairs all the records of its stream with the entries made of them. The
  loss markers are not among these.
* Of its streams an action ingests those before the first load that fails. It succeeds if it ingests
  all of them.
* An action that loads nothing ingests nothing, and the streams that it does not close keep their
  tasks. -/
theorem Logged.tasks_are_ingested (logged : Logged session log) :
    (∀ handle tasks, session.tasks handle = .ok tasks →
      tasks.ids.Pairwise (· < ·) ∧
      ∀ pid, pid ∈ tasks.ids ↔ ∃ ingest ∈ log, ingest.stream = handle ∧ pid ∈ ingest.pids) ∧
    ∀ (action : Action S H K) (host : σ),
      (∀ ingest ∈ action.ingests session host, ingest.Completes (action.prepared session)) ∧
      (action.ingests session host).map (·.stream) <+: action.targets session ∧
      (action.loads = true →
        (Succeeds (perform action) (session, host) ↔
          (action.ingests session host).map (·.stream) = action.targets session)) ∧
      (action.loads = false → action.ingests session host = [] ∧
        ∀ handle tasks, action.Spares handle → session.tasks handle = .ok tasks →
          (runFrom (perform action) (session, host)).2.1.tasks handle = .ok tasks) := by
  have sound := (reachable_iff_logged.mpr ⟨log, logged⟩).sound
  constructor
  · intro handle tasks found
    obtain ⟨stream, opened, rfl⟩ := map_eq_ok.mp found
    refine ⟨stream.tasks.ascending, fun pid => ?_⟩
    rw [← logged.accounts handle pid, seen_of_open opened]
  · intro action host
    refine ⟨?_, ingests_streams _ _, fun loads => ?_, fun loadless => ?_⟩
    · intro ingest member
      have distinct : (action.targets session).Nodup := by
        cases action with
        | loadAll => exact sound.handles_nodup
        | load | append => exact List.nodup_singleton _
        | _ => exact List.nodup_nil
      exact completes_of_ingests distinct member
    · rw [(perform_runs_like_fold loads session host).2]
      exact fold_succeeds_iff _ _ _
    · exact ⟨Action.ingests_of_loadless loadless, fun handle tasks spares found =>
        tasks_of_loadless sound loadless spares found⟩

def rewrittenRecords : List Record := [⟨10, 0, 7, 1, 0, 3, []⟩, ⟨20, 0, 8, 2, 1, 0, []⟩]

def rewrittenSession : SampleSession :=
  { settings := {}
    streams := { limit := 127, slots := [{ stream := some (scriptedStream 0 rewrittenRecords) }] }
    hooks := ⟨[sampleHook]⟩ }

def rewrittenIngest : Ingest where
  stream := ⟨0, 0⟩
  made :=
    [(⟨10, 0, 7, 1, 0, 3, []⟩, ⟨⟨0, 0⟩, 0, 5, 1, 10, 0, 0x7F⟩),
     (⟨20, 0, 8, 2, 1, 0, []⟩, ⟨⟨0, 0⟩, 0, 8, 2, 20, 1, View.all⟩)]

theorem ingest_rewrittenSession :
    rewrittenSession.startProgress.ingest? ⟨0, 0⟩ [] = some rewrittenIngest := by
  have found : rewrittenSession.startProgress.stream ⟨0, 0⟩ =
      .ok (scriptedStream 0 rewrittenRecords) := rfl
  obtain ⟨_, delivers⟩ := Script.ofLists_delivers [rewrittenRecords]
  have read : readAll (scriptedStream 0 rewrittenRecords).source = (⟨[rewrittenRecords], none⟩, _) :=
    readAll_eq_iff.mpr delivers
  rw [ingest?_of_open found rfl, Loader.completed?, read]
  rfl

/-- Pid 7 stands in the record and in its loss marker, but not among the tasks. -/
theorem rewritten_tasks_are_ingested :
    ∃ (session : SampleSession) (tasks : IdSet), Logged session [rewrittenIngest] ∧
      session.tasks ⟨0, 0⟩ = .ok tasks ∧ (∀ pid, pid ∈ tasks.ids ↔ pid = 5 ∨ pid = 8) ∧
      (7 : Int32) ∉ tasks.ids := by
  have acted : ∀ {session : SampleSession} {log : List Ingest} (action : Action _ _ _),
      Logged session log →
        Logged (runFrom (perform action) (session, ([] : List JournalLine))).2.1
          (session.logAfter action ([] : List JournalLine) log) :=
    fun action logged => .acted action logged
  have created : create {} =
      .ok ({ settings := {}, streams := { limit := 127 } } : SampleSession) := rfl
  have opened := acted (.addSource "a" (.ofLists [rewrittenRecords] none none)) (.created created)
  have hooked : Logged rewrittenSession [] :=
    acted (.addHook sampleHook.eventId sampleHook.stream sampleHook.plugin) opened
  have loaded := acted (.load ⟨0, 0⟩) hooked
  have log : rewrittenSession.logAfter (.load ⟨0, 0⟩) ([] : List JournalLine) [] =
      [rewrittenIngest] := ingests_of_some ingest_rewrittenSession []
  rw [log] at loaded
  obtain ⟨told, _⟩ := loaded.tasks_are_ingested
  have member := (loaded.accounts ⟨0, 0⟩ 5).mpr
    ⟨rewrittenIngest, List.mem_singleton.mpr rfl, rfl, by decide⟩
  generalize (runFrom (perform (.load ⟨0, 0⟩)) (rewrittenSession, ([] : List JournalLine))).2.1 =
    session at loaded told member
  cases found : session.stream ⟨0, 0⟩ with
  | error fault =>
      rw [seen_of_closed found] at member
      cases member
  | ok stream =>
      have tasks : session.tasks ⟨0, 0⟩ = .ok stream.tasks := by rw [tasks, found]; rfl
      have pids : ∀ pid, pid ∈ stream.tasks.ids ↔ pid = 5 ∨ pid = 8 := by
        intro pid
        have named : rewrittenIngest.stream = ⟨0, 0⟩ := rfl
        have left : rewrittenIngest.pids = [5, 8] := rfl
        rw [(told ⟨0, 0⟩ stream.tasks tasks).2 pid]
        simp [named, left]
      exact ⟨session, stream.tasks, loaded, tasks, pids, by rw [pids]; decide⟩

end Session

end KernelTrace
