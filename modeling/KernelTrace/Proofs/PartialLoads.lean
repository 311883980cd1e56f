import KernelTrace.Proofs.Failures
import KernelTrace.Proofs.LoadAll

namespace KernelTrace.Session

variable {S H K σ : Type} [RecordSource S] [Plugin H σ] {session middle later : Session S H K}
  {handle : Handle} {done more : List Handle} {host : σ} {after : Session S H K × σ}

/-- The same session after loads of these streams: their tasks are added, their collections are
reset and their records are counted. -/
structure PartlyLoaded (session : Session S H K) (done : List Handle) (later : Session S H K) :
    Prop where
  settings : later.settings = session.settings
  hooks : later.hooks = session.hooks
  collections : later.collections = session.collections.resetStreams done
  handles : later.handles = session.handles
  limit : later.streams.limit = session.streams.limit
  generations : later.streams.generations = session.streams.generations
  loaded : ∀ handle ∈ done, ∃ (stream : Stream S) (host : σ) (loaded : LoadResult),
    session.stream handle = .ok stream ∧ stream.poisoned = false ∧
      ((session.loader stream).run stream.source host).1.outcome = .ok loaded ∧
      later.stream handle = .ok
        { stream with
          source := (readAll stream.source).2, tasks := stream.tasks.union loaded.tasks }
  kept : ∀ handle, handle ∉ done → later.stream handle = session.stream handle
  progress : later.progress = session.progress + (done.flatMap session.records).length

theorem partlyLoaded_nil (session : Session S H K) : PartlyLoaded session [] session where
  settings := rfl
  hooks := rfl
  collections := rfl
  handles := rfl
  limit := rfl
  generations := rfl
  loaded := List.forall_mem_nil _
  kept _ _ := rfl
  progress := rfl

theorem PartlyLoaded.records (first : PartlyLoaded session done middle) (absent : handle ∉ done) :
    middle.records handle = session.records handle := by
  rw [Session.records, Session.records, first.kept handle absent]

theorem PartlyLoaded.append (first : PartlyLoaded session done middle)
    (second : PartlyLoaded middle more later) (apart : done.Disjoint more) :
    PartlyLoaded session (done ++ more) later where
  settings := second.settings.trans first.settings
  hooks := second.hooks.trans first.hooks
  collections := by
    rw [second.collections, first.collections]
    exact List.foldl_append.symm
  handles := second.handles.trans first.handles
  limit := second.limit.trans first.limit
  generations := second.generations.trans first.generations
  loaded handle member := by
    rcases List.mem_append.mp member with early | late
    · obtain ⟨stream, host, loaded, found, unspoilt, outcome, there⟩ := first.loaded handle early
      rw [← second.kept handle (apart early)] at there
      exact ⟨stream, host, loaded, found, unspoilt, outcome, there⟩
    · obtain ⟨stream, host, loaded, found, unspoilt, outcome, there⟩ := second.loaded handle late
      have loader : middle.loader stream = session.loader stream := by
        simp only [Session.loader, first.hooks, first.settings]
      rw [first.kept handle fun early => apart early late] at found
      rw [loader] at outcome
      exact ⟨stream, host, loaded, found, unspoilt, outcome, there⟩
  kept handle absent := by
    obtain ⟨early, late⟩ := not_or.mp (mt List.mem_append.mpr absent)
    rw [second.kept handle late, first.kept handle early]
  progress := by
    have same : more.flatMap middle.records = more.flatMap session.records :=
      List.flatMap_congr fun handle member => first.records fun early => apart early member
    calc later.progress
      _ = middle.progress + (more.flatMap middle.records).length := second.progress
      _ = session.progress + (done.flatMap session.records).length +
          (more.flatMap session.records).length := by rw [first.progress, same]
      _ = session.progress + ((done ++ more).flatMap session.records).length := by
        rw [List.flatMap_append, List.length_append, Nat.add_assoc]

theorem partlyLoaded_of_readStream {entries : List Entry}
    (ran : runFrom (readStream handle) (session, host) = (.ok entries, after)) :
    PartlyLoaded session [handle] after.1 := by
  obtain ⟨stream, loaded, found, unspoilt, outcome, _, rfl⟩ := readStream_eq_ok ran
  rw [settle_loaded session handle _ outcome]
  constructor
  case settings | hooks | collections => rfl
  case handles => exact Registry.handles_modify fun _ => rfl
  case limit => exact Registry.limit_modify _
  case generations => exact Registry.generations_modify _
  case loaded =>
    intro other member
    obtain rfl := List.mem_singleton.mp member
    refine ⟨stream, host, loaded, found, unspoilt, outcome, ?_⟩
    refine (stream_modify other _).trans ?_
    rw [found]
    rfl
  case kept =>
    intro other absent
    exact stream_modify_of_ne (mt List.mem_singleton.mpr absent)
  case progress =>
    rw [List.flatMap_singleton, ← completed_of_run found outcome]

theorem partlyLoaded_of_fold {start merged : List Entry} (distinct : done.Nodup)
    (ran : runFrom (done.foldlM mergeNext start) (session, host) = (.ok merged, after)) :
    PartlyLoaded session done after.1 := by
  -- the first load starts from the session, the others from what it leaves
  induction done generalizing session start host with
  | nil =>
      cases ran
      exact partlyLoaded_nil session
  | cons handle others ih =>
      obtain ⟨absent, distinct⟩ := List.nodup_cons.mp distinct
      rw [List.foldlM_cons] at ran
      obtain ⟨_, middle, first, rest⟩ := runFrom_bind_eq_ok ran
      obtain ⟨entries, _, read, given⟩ := runFrom_bind_eq_ok first
      cases given
      have apart : [handle].Disjoint others := List.singleton_disjoint.mpr absent
      exact (partlyLoaded_of_readStream read).append (ih distinct rest) apart

theorem loadAll_eq_error {failure : Failure} :
    runFrom loadAll (session, host) = (.error failure, after) ↔
      runFrom (session.handles.foldlM mergeNext []) (session.startProgress, host) =
        (.error failure, after) := by
  constructor
  · intro failed
    rcases runFrom_bind_eq_error failed with start | ⟨_, started, start, rest⟩
    · cases start
    · cases start
      rcases runFrom_bind_eq_error rest with got | ⟨_, _, got, rest⟩
      · cases got
      · cases got
        rcases runFrom_bind_eq_error rest with folded | ⟨_, _, _, rest⟩
        · exact folded
        · cases rest
  · intro failed
    change runFrom (session.handles.foldlM mergeNext [] >>= _) (session.startProgress, host) = _
    exact runFrom_bind_error failed

/-- A load of all streams that fails has loaded the streams before the one where it failed. -/
theorem stops_of_failed_loadAll {fault : Fault} (sound : session.Sound)
    (failed : runFrom loadAll (session, host) = (.error (.fault fault), after)) :
    ∃ done handle rest middle, session.handles = done ++ handle :: rest ∧
      PartlyLoaded session.startProgress done middle ∧ LoadFails middle handle fault after.1 := by
  obtain ⟨done, handle, rest, _, middle, same, before, stopped⟩ :=
    foldlM_eq_error (loadAll_eq_error.mp failed)
  have distinct := sound.handles_nodup
  rw [same] at distinct
  refine ⟨done, handle, rest, middle.1, same,
    partlyLoaded_of_fold (List.nodup_append.mp distinct).1 before, ?_⟩
  rcases runFrom_bind_eq_error stopped with read | ⟨_, _, _, rest⟩
  · exact loadFails_of_readStream read
  · cases rest

variable [DecidableEq H] [DecidableEq K] [Condition K]

/-- An operation that fails leaves the session intact. Of the loads, one that fails at a read has
counted the records before it, and one of all streams has loaded those before the one that fails.
Appends are another matter. A recompute in place leaves the entries alone as well. -/
theorem failures_leave_intact (reachable : Reachable session) {action : Action S H K}
    {fault : Fault}
    (failed : runFrom (perform action) (session, host) = (.error (.fault fault), after)) :
    (action.loads = false → Intact session after.1 ∧ after.1.progress = session.progress) ∧
      (∀ handle, action = .load handle → Intact session after.1 ∧
        ∀ stream, session.stream handle = .ok stream → stream.poisoned = false →
          ∃ lanes cause source, fault = .source cause ∧
            BreaksOff stream.source lanes cause source ∧
            after.1.progress = lanes.flatten.length) ∧
      (action = .loadAll → ∃ done handle rest middle, session.handles = done ++ handle :: rest ∧
        PartlyLoaded session.startProgress done middle ∧ Intact middle after.1 ∧
        LoadFails middle handle fault after.1) ∧
      (∀ handle entries, action = .refilter handle entries →
        session.refilterInPlace handle entries = (.error fault, entries, session)) ∧
      (∀ entries, action = .refilterAll entries →
        session.refilterAllInPlace entries = (.error fault, entries, session)) := by
  have sound := reachable.sound
  refine ⟨fun loadless => unmoved_of_failed sound loadless failed, ?_, ?_, ?_, ?_⟩
  · rintro handle rfl
    rcases runFrom_bind_eq_error failed with read | ⟨_, _, _, rest⟩
    · refine ⟨intact_of_failed_load read, ?_⟩
      intro stream found unspoilt
      have fails := loadFails_of_load read
      generalize after.1 = later at fails ⊢
      cases fails with
      | closed missing => cases found.symm.trans missing
      | spoilt again refused =>
          cases found.symm.trans again
          cases refused.symm.trans (Stream.usable_eq_ok.mpr ⟨unspoilt, rfl⟩)
      | broke again _ breaks =>
          cases found.symm.trans again
          exact ⟨_, _, _, rfl, breaks, Nat.zero_add _⟩
    · cases rest
  · rintro rfl
    rcases runFrom_bind_eq_error failed with read | ⟨_, _, _, rest⟩
    · obtain ⟨done, handle, rest, middle, same, partly, fails⟩ := stops_of_failed_loadAll sound read
      exact ⟨done, handle, rest, middle, same, partly, fails.intact, fails⟩
    · cases rest
  · rintro handle entries rfl
    rw [refilterInPlace_eq, (of_failed_answering failed).1]
    rfl
  · rintro entries rfl
    rw [refilterAllInPlace_eq, (of_failed_answering failed).1]
    rfl

def brokenScript : Script := .ofLists [lateRecords] none (some ⟨0, 1, .noRecordAt 9⟩)

def brokenStream : Stream Script := { scriptedStream 1 lateRecords with source := brokenScript }

def brokenSession : Session Script JournalPlugin ExtraCondition :=
  { settings := {}
    streams :=
      { limit := 127
        slots := [{ stream := some (scriptedStream 0 earlyRecords) },
          { stream := some brokenStream }] } }

theorem reachable_brokenSession : Reachable brokenSession := by
  have first := (Reachable.start Script JournalPlugin ExtraCondition).act []
    (.addSource "a" (.ofLists [earlyRecords] none none))
  exact first.act [] (.addSource "a" brokenScript)

theorem brokenScript_breaks :
    ∃ after, BreaksOff brokenScript [[⟨20, 0, 9, 1, 0, 0, []⟩]] (.noRecordAt 9) after :=
  ⟨_, by decide, .here (.more rfl (.failed rfl))⟩

theorem load_brokenStream {session : Session Script JournalPlugin ExtraCondition}
    {clock : Option Clock} (hooks : session.hooks.hooks = [])
    (found : session.stream ⟨1, 0⟩ = .ok { brokenStream with clock })
    (host : List JournalLine) :
    ∃ after, runFrom (readStream ⟨1, 0⟩) (session, host) =
      (.error (.fault (.source (.noRecordAt 9))), after) := by
  obtain ⟨source, breaks⟩ := brokenScript_breaks
  refine readStream_of_breaks found rfl breaks ⟨?_, fun record _ => ⟨true, rfl⟩⟩ host
  change ∀ hook ∈ session.hooks.hooks, _
  rw [hooks]
  exact List.forall_mem_nil _

theorem loadAll_brokenSession :
    ∃ after, runFrom loadAll (brokenSession, []) =
      (.error (.fault (.source (.noRecordAt 9))), after) := by
  have here : brokenSession.stream ⟨0, 0⟩ = .ok (scriptedStream 0 earlyRecords) := rfl
  have loaded := load_of_script here rfl rfl
    ⟨List.forall_mem_nil _, fun record _ => ⟨true, rfl⟩⟩ ([] : List JournalLine)
  rw [load_eq] at loaded
  rcases first : runFrom (readStream ⟨0, 0⟩) (brokenSession.startProgress, []) with ⟨_, middle⟩
  rw [first] at loaded
  cases loaded
  have partly := partlyLoaded_of_readStream first
  have hooks : middle.1.hooks.hooks = [] := congrArg HookTable.hooks partly.hooks
  obtain ⟨after, failed⟩ :=
    load_brokenStream hooks (partly.kept ⟨1, 0⟩ (by decide)) middle.2
  have merged : runFrom (mergeNext [] ⟨0, 0⟩) (brokenSession.startProgress, []) = (.ok _, middle) :=
    runFrom_bind_ok first
  refine ⟨after, loadAll_eq_error.mpr ?_⟩
  change runFrom ([⟨0, 0⟩, ⟨1, 0⟩].foldlM mergeNext []) _ = _
  rw [List.foldlM_cons, runFrom_bind_ok merged, List.foldlM_cons]
  exact runFrom_bind_error (runFrom_bind_error failed)

theorem failures_leave_intact_of_brokenSession :
    (∃ after, runFrom (perform (.load ⟨1, 0⟩)) (brokenSession, []) =
        (.error (.fault (.source (.noRecordAt 9))), after) ∧
      Intact brokenSession after.1 ∧ after.1.progress = 1) ∧
    ∃ after, runFrom (perform .loadAll) (brokenSession, []) =
        (.error (.fault (.source (.noRecordAt 9))), after) ∧
      ∃ done handle rest middle, [⟨0, 0⟩, ⟨1, 0⟩] = done ++ handle :: rest ∧
        PartlyLoaded brokenSession.startProgress done middle ∧ Intact middle after.1 := by
  constructor
  · have found : brokenSession.startProgress.stream ⟨1, 0⟩ = .ok brokenStream := rfl
    obtain ⟨after, failed⟩ := load_brokenStream rfl found []
    rw [← load_eq] at failed
    have performed : runFrom (perform (.load ⟨1, 0⟩)) (brokenSession, []) = _ :=
      runFrom_bind_error failed
    obtain ⟨_, load, _⟩ := failures_leave_intact reachable_brokenSession performed
    obtain ⟨intact, counted⟩ := load ⟨1, 0⟩ rfl
    obtain ⟨lanes, cause, source, _, breaks, progress⟩ := counted brokenStream rfl rfl
    obtain ⟨_, known⟩ := brokenScript_breaks
    have same := (readAll_breaks_iff.mpr breaks).symm.trans (readAll_breaks_iff.mpr known)
    cases same
    exact ⟨after, performed, intact, progress⟩
  · obtain ⟨after, failed⟩ := loadAll_brokenSession
    have performed : runFrom (perform .loadAll) (brokenSession, []) = _ :=
      runFrom_bind_error failed
    obtain ⟨_, _, loadAll, _⟩ := failures_leave_intact reachable_brokenSession performed
    obtain ⟨done, handle, rest, middle, same, partly, intact, _⟩ := loadAll rfl
    exact ⟨after, performed, done, handle, rest, middle, same, partly, intact⟩

end KernelTrace.Session
