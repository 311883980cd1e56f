import KernelTrace.Proofs.Appends
import KernelTrace.Proofs.Isolation

/-! What a load ingests. One that comes to its end makes an entry of each record, and the tasks of these
entries are all that it adds to the tasks of its stream. -/

namespace KernelTrace

variable {S H K σ : Type}

/-- A load that came to its end: the stream, and its records with the entries made of them. -/
structure Ingest where
  stream : Handle
  made : List (Record × Entry)

def Ingest.pids (ingest : Ingest) : List Int32 := ingest.made.map (·.2.pid)

namespace Session

variable {session later : Session S H K} {handle : Handle} {log : List Ingest}

def seen (session : Session S H K) (handle : Handle) : List Int32 :=
  match session.stream handle with
  | .error _ => []
  | .ok stream => stream.tasks.ids

def Accounts (session : Session S H K) (log : List Ingest) : Prop :=
  ∀ handle pid,
    pid ∈ session.seen handle ↔ ∃ ingest ∈ log, ingest.stream = handle ∧ pid ∈ ingest.pids

theorem seen_of_open {stream : Stream S} (found : session.stream handle = .ok stream) :
    session.seen handle = stream.tasks.ids := by
  rw [seen, found]

theorem seen_congr (same : later.stream handle = session.stream handle) :
    later.seen handle = session.seen handle := by
  rw [seen, seen, same]

theorem Accounts.congr (accounts : session.Accounts log)
    (same : ∀ handle, later.seen handle = session.seen handle) : later.Accounts log := by
  intro handle pid
  rw [same]
  exact accounts handle pid

theorem seen_of_streams (same : later.streams = session.streams) :
    ∀ handle, later.seen handle = session.seen handle := by
  intro handle
  apply seen_congr
  rw [stream, stream, same]

end Session

variable [RecordSource S] [Plugin H σ]

namespace Loader

variable {loader : Loader H} {source finish : S} {host : σ} {lanes : List (List Record)}
  {made : List (Record × Entry)} {tasks : IdSet} {pid : Int32}

def completed? (loader : Loader H) (source : S) (host : σ) : Option (List (Record × Entry)) :=
  let reading := (readAll source).1
  let built := (loader.buildLanes reading.lanes host).1
  match built.panic, reading.fault with
  | none, none => some built.made.flatten
  | _, _ => none

theorem run_of_completed (completed : loader.completed? source host = some made) :
    (loader.buildLanes (readAll source).1.lanes host).1.made.flatten = made ∧
      ∃ loaded, (loader.run source host).1.outcome = .ok loaded ∧
        loaded.tasks = .ofList (made.map (·.2.pid)) := by
  simp only [completed?] at completed
  split at completed
  · rename_i calm sound
    cases completed
    refine ⟨rfl, ?_⟩
    simp only [run, calm, sound]
    exact ⟨_, rfl, rfl⟩
  · cases completed

theorem completed_of_run {loaded : LoadResult}
    (ran : (loader.run source host).1.outcome = .ok loaded) :
    ∃ made, loader.completed? source host = some made := by
  simp only [run] at ran
  split at ran
  · cases ran
  · cases ran
  · rename_i calm sound
    refine ⟨(loader.buildLanes (readAll source).1.lanes host).1.made.flatten, ?_⟩
    simp only [completed?, calm, sound]

theorem mem_addTo :
    pid ∈ ((loader.run source host).1.addTo tasks).ids ↔
      pid ∈ tasks.ids ∨
        ∃ made, loader.completed? source host = some made ∧ pid ∈ made.map (·.2.pid) := by
  cases ended : loader.completed? source host with
  | some made =>
      obtain ⟨_, loaded, ran, added⟩ := run_of_completed ended
      simp [LoadReport.addTo, ran, added]
  | none =>
      cases outcome : (loader.run source host).1.outcome with
      | error failure => simp [LoadReport.addTo, outcome]
      | ok loaded =>
          obtain ⟨made, completed⟩ := completed_of_run outcome
          cases ended.symm.trans completed

theorem completed_pairs_up (completed : loader.completed? source host = some made) :
    Delivers source (readAll source).1.lanes (readAll source).2 ∧
      loader.PairsUp (readAll source).1.lanes.flatten made := by
  obtain ⟨rfl, loaded, ran, _⟩ := run_of_completed completed
  have delivers := delivers_of_run_ok ran
  exact ⟨delivers, pairs_up_flatten (buildLanes_pairs_up (run_eq_ok delivers ran).1)⟩

end Loader

/-- In this session the ingest is a whole load of its stream. -/
def Ingest.Completes (ingest : Ingest) (session : Session S H K) : Prop :=
  ∃ stream lanes finish, session.stream ingest.stream = .ok stream ∧
    Delivers stream.source lanes finish ∧
    (session.loader stream).PairsUp lanes.flatten ingest.made

namespace Session

variable {session after : Session S H K} {handle other : Handle} {host : σ} {log : List Ingest}
  {handles : List Handle} {ingest : Ingest} {pid : Int32}

def ingest? (session : Session S H K) (handle : Handle) (host : σ) : Option Ingest :=
  match session.stream handle with
  | .error _ => none
  | .ok stream =>
    if stream.poisoned then none
    else ((session.loader stream).completed? stream.source host).map (⟨handle, ·⟩)

def ingests : List Handle → Session S H K × σ → List Ingest
  | [], _ => []
  | handle :: handles, (session, host) =>
    match session.ingest? handle host with
    | none => []
    | some ingest => ingest :: ingests handles (runFrom (readStream handle) (session, host)).2

theorem ingest?_of_open {stream : Stream S} (found : session.stream handle = .ok stream)
    (unspoilt : stream.poisoned = false) (host : σ) :
    session.ingest? handle host =
      ((session.loader stream).completed? stream.source host).map (⟨handle, ·⟩) := by
  simp [ingest?, found, unspoilt]

theorem ingest?_eq_some (ingested : session.ingest? handle host = some ingest) :
    ingest.stream = handle ∧ ingest.Completes session := by
  unfold ingest? at ingested
  split at ingested
  · cases ingested
  · rename_i stream found
    split at ingested
    · cases ingested
    · obtain ⟨made, completed, rfl⟩ := Option.map_eq_some_iff.mp ingested
      obtain ⟨delivers, paired⟩ := Loader.completed_pairs_up completed
      exact ⟨rfl, stream, _, _, found, delivers, paired⟩

theorem readStream_succeeds_iff :
    Succeeds (readStream handle : SessionStep S H K σ (List Entry)) (session, host) ↔
      ∃ ingest, session.ingest? handle host = some ingest := by
  constructor
  · intro ⟨entries, ran⟩
    obtain ⟨stream, loaded, found, unspoilt, outcome, _⟩ := readStream_eq_ok (Prod.ext ran rfl)
    obtain ⟨made, completed⟩ := Loader.completed_of_run outcome
    exact ⟨_, by rw [ingest?_of_open found unspoilt, completed]; rfl⟩
  · intro ⟨ingest, ingested⟩
    unfold ingest? at ingested
    split at ingested
    · cases ingested
    · rename_i stream found
      split at ingested
      · cases ingested
      · rename_i unspoilt
        obtain ⟨made, completed, rfl⟩ := Option.map_eq_some_iff.mp ingested
        obtain ⟨_, loaded, ran, _⟩ := Loader.run_of_completed completed
        rw [Bool.not_eq_true] at unspoilt
        exact ⟨loaded.entries, by rw [readStream_of_open found unspoilt, ran]; rfl⟩

theorem mem_seen_of_readStream :
    pid ∈ (runFrom (readStream handle) (session, host)).2.1.seen other ↔
      pid ∈ session.seen other ∨
        ∃ ingest, session.ingest? handle host = some ingest ∧ ingest.stream = other ∧
          pid ∈ ingest.pids := by
  cases found : session.stream handle with
  | error fault => simp [readStream, ingest?, found]
  | ok stream =>
      cases unspoilt : stream.poisoned with
      | true => simp [readStream, ingest?, found, Stream.usable, unspoilt]
      | false =>
          have ingested := ingest?_of_open found unspoilt host
          rw [readStream_of_open found unspoilt]
          by_cases same : other = handle
          · subst same
            rw [seen_of_open (stream_settle found _ _), seen_of_open found]
            refine Loader.mem_addTo.trans ?_
            simp [ingested, Ingest.pids]
          · rw [seen_congr ((others_of_settle session _ _).1 other same)]
            simp [ingested, Ne.symm same]

theorem Accounts.read (accounts : session.Accounts log) (handle : Handle) (host : σ) :
    (runFrom (readStream handle) (session, host)).2.1.Accounts
      (log ++ (session.ingest? handle host).toList) := by
  intro other pid
  rw [mem_seen_of_readStream, accounts other pid]
  simp [or_and_right, exists_or]

theorem ingests_of_some (ingested : session.ingest? handle host = some ingest)
    (handles : List Handle) :
    ingests (handle :: handles) (session, host) =
      ingest :: ingests handles (runFrom (readStream handle) (session, host)).2 := by
  rw [ingests, ingested]

theorem ingests_of_none (failed : session.ingest? handle host = none) (handles : List Handle) :
    ingests (handle :: handles) (session, host) = [] := by
  rw [ingests, failed]

/-- What the first of the loads leaves: either it ingested and the others follow, or it failed and was
the last. -/
theorem fold_cases (handle : Handle) (handles : List Handle) (start : List Entry)
    (session : Session S H K) (host : σ) :
    (∃ ingest merged, session.ingest? handle host = some ingest ∧
      runFrom ((handle :: handles).foldlM mergeNext start) (session, host) =
        runFrom (handles.foldlM mergeNext merged)
          (runFrom (readStream handle) (session, host)).2) ∨
    (session.ingest? handle host = none ∧
      ∃ failure, runFrom ((handle :: handles).foldlM mergeNext start) (session, host) =
        (.error failure, (runFrom (readStream handle) (session, host)).2)) := by
  rcases ran : runFrom (readStream handle) (session, host) with ⟨failure | entries, after⟩
  · refine .inr ⟨?_, failure, ?_⟩
    · cases ingested : session.ingest? handle host with
      | none => rfl
      | some ingest =>
          obtain ⟨entries, ok⟩ := readStream_succeeds_iff.mpr ⟨ingest, ingested⟩
          rw [ran] at ok
          cases ok
    · rw [List.foldlM_cons]
      exact runFrom_bind_error (runFrom_bind_error ran)
  · obtain ⟨ingest, ingested⟩ := readStream_succeeds_iff.mp ⟨entries, congrArg Prod.fst ran⟩
    refine .inl ⟨ingest, mergePair start entries, ingested, ?_⟩
    have merged : runFrom (mergeNext start handle) (session, host) =
        (.ok (mergePair start entries), after) := runFrom_bind_ok ran
    rw [List.foldlM_cons, runFrom_bind_ok merged]

theorem Accounts.fold (accounts : session.Accounts log) (handles : List Handle)
    (start : List Entry) (host : σ) :
    (runFrom (handles.foldlM mergeNext start) (session, host)).2.1.Accounts
      (log ++ ingests handles (session, host)) := by
  induction handles generalizing session log start host with
  | nil =>
      rw [ingests, List.append_nil]
      exact accounts
  | cons handle handles ih =>
      have first := accounts.read handle host
      rcases fold_cases handle handles start session host with
        ⟨ingest, merged, ingested, ran⟩ | ⟨failed, failure, ran⟩
      · have rest := ih first merged (runFrom (readStream handle) (session, host)).2.2
        rw [ingested] at first rest
        rw [ran, ingests_of_some ingested, ← List.singleton_append, ← List.append_assoc]
        exact rest
      · rw [failed] at first
        rw [ran, ingests_of_none failed]
        exact first

theorem ingests_streams (handles : List Handle) (state : Session S H K × σ) :
    (ingests handles state).map (·.stream) <+: handles := by
  induction handles generalizing state with
  | nil => exact List.nil_prefix
  | cons handle handles ih =>
      cases ingested : state.1.ingest? handle state.2 with
      | none =>
          rw [ingests_of_none ingested]
          exact List.nil_prefix
      | some ingest =>
          rw [ingests_of_some ingested, List.map_cons, (ingest?_eq_some ingested).1]
          exact List.prefix_cons_inj handle |>.mpr (ih _)

theorem fold_succeeds_iff (handles : List Handle) (start : List Entry) (state : Session S H K × σ) :
    Succeeds (handles.foldlM mergeNext start) state ↔
      (ingests handles state).map (·.stream) = handles := by
  obtain ⟨session, host⟩ := state
  induction handles generalizing start session host with
  | nil => exact ⟨fun _ => rfl, fun _ => ⟨start, rfl⟩⟩
  | cons handle handles ih =>
      rcases fold_cases handle handles start session host with
        ⟨ingest, merged, ingested, ran⟩ | ⟨failed, failure, ran⟩
      · have rest := ih merged (runFrom (readStream handle) (session, host)).2.1
          (runFrom (readStream handle) (session, host)).2.2
        rw [Succeeds] at rest ⊢
        rw [ran, rest, ingests_of_some ingested, List.map_cons, (ingest?_eq_some ingested).1,
          List.cons_inj_right]
      · rw [Succeeds, ran, ingests_of_none failed]
        simp

theorem completes_of_ingests (distinct : handles.Nodup)
    (member : ingest ∈ ingests handles (session, host)) : ingest.Completes session := by
  induction handles generalizing session host with
  | nil => cases member
  | cons handle handles ih =>
      obtain ⟨absent, distinct⟩ := List.nodup_cons.mp distinct
      cases ingested : session.ingest? handle host with
      | none =>
          rw [ingests_of_none ingested] at member
          cases member
      | some first =>
          obtain ⟨named, completes⟩ := ingest?_eq_some ingested
          rw [ingests_of_some ingested] at member
          rcases List.mem_cons.mp member with rfl | member
          · exact completes
          · obtain ⟨entries, ran⟩ := readStream_succeeds_iff.mpr ⟨first, ingested⟩
            have partly := partlyLoaded_of_readStream (Prod.ext ran rfl)
            obtain ⟨stream, lanes, finish, found, delivers, paired⟩ := ih distinct member
            have other : ingest.stream ∉ [handle] := by
              have among := (ingests_streams handles _).subset (List.mem_map_of_mem member)
              exact mt List.mem_singleton.mp (ne_of_mem_of_not_mem among absent)
            rw [partly.kept _ other] at found
            refine ⟨stream, lanes, finish, found, delivers, ?_⟩
            simp only [Session.loader, partly.hooks, partly.settings] at paired
            exact paired

theorem runFrom_fold_singleton (handle : Handle) (start : List Entry) (state : Session S H K × σ) :
    runFrom ([handle].foldlM mergeNext start) state =
      ((runFrom (readStream handle) state).1.map (mergePair start),
        (runFrom (readStream handle) state).2) := by
  have single : ([handle].foldlM mergeNext start : SessionStep S H K σ (List Entry)) =
      mergeNext start handle >>= fun merged => pure merged := rfl
  rw [single, runFrom_bind_pure, mergeNext, runFrom_bind_pure]
  rcases runFrom (readStream handle) state with ⟨cause | entries, after⟩ <;> rfl

/-- Told by its streams and by whether it comes to a result, the one step is like the other. -/
def RunsLike {α β : Type} (step : SessionStep S H K σ α) (state : Session S H K × σ)
    (other : SessionStep S H K σ β) (twin : Session S H K × σ) : Prop :=
  (runFrom step state).2.1.streams = (runFrom other twin).2.1.streams ∧
    (Succeeds step state ↔ Succeeds other twin)

theorem load_runs_like_fold (handle : Handle) (session : Session S H K) (host : σ) :
    RunsLike (load handle) (session, host) ([handle].foldlM mergeNext [])
      (session.startProgress, host) := by
  rw [RunsLike, Succeeds, Succeeds, load_eq, runFrom_fold_singleton]
  cases (runFrom (readStream handle) (session.startProgress, host)).1 <;> simp [Except.map]

theorem append_runs_like_load (prior : List Entry) (handle : Handle) (session : Session S H K)
    (host : σ) : RunsLike (append prior handle none) (session, host) (load handle) (session, host) := by
  rcases ran : runFrom (load handle) (session, host) with ⟨cause | entries, after⟩
  · have failed : runFrom (append prior handle none) (session, host) = (.error cause, after) :=
      runFrom_bind_error ran
    simp [RunsLike, Succeeds, ran, failed]
  · simp [RunsLike, Succeeds, ran, append_of_load ran]

theorem append_runs_like_fold (prior : List Entry) (handle : Handle) (clock : Option Clock)
    (session : Session S H K) (host : σ) :
    RunsLike (append prior handle clock) (session, host) ([handle].foldlM mergeNext [])
      ((session.clocked handle clock).startProgress, host) := by
  have unclocked : ∀ ready : Session S H K, RunsLike (append prior handle none) (ready, host)
      ([handle].foldlM mergeNext []) (ready.startProgress, host) := fun ready =>
    have first := append_runs_like_load prior handle ready host
    have second := load_runs_like_fold handle ready host
    ⟨first.1.trans second.1, first.2.trans second.2⟩
  cases clock with
  | none => exact unclocked session
  | some clock =>
      cases found : session.stream handle with
      | ok stream =>
          have set : runFrom (SessionStep.ofChange fun session => session.setClock handle clock)
              (session, host) = (.ok (), session.clocked handle (some clock), host) := by
            simp [SessionStep.ofChange, setClock, updateStream, found, clocked, Except.map]
          have same : runFrom (append prior handle (some clock)) (session, host) =
              runFrom (append prior handle none) (session.clocked handle (some clock), host) :=
            runFrom_bind_ok set
          rw [RunsLike, Succeeds, same]
          exact unclocked _
      | error fault =>
          have refused : runFrom (append prior handle (some clock)) (session, host) =
              (.error (.fault fault), session, host) := by
            apply runFrom_bind_error
            simp [SessionStep.ofChange, setClock, updateStream, found, Except.map]
          have missing : session.startProgress.stream handle = .error fault := found
          have unread : runFrom (readStream handle) (session.startProgress, host) =
              (.error (.fault fault), session.startProgress, host) := by
            simp only [readStream, runFrom_mk, missing]
          rw [clocked, modifyStream_of_closed found, RunsLike, Succeeds, Succeeds, refused,
            runFrom_fold_singleton, unread]
          simp [startProgress, Except.map]

theorem loadAll_runs_like_fold (session : Session S H K) (host : σ) :
    RunsLike loadAll (session, host) (session.handles.foldlM mergeNext [])
      (session.startProgress, host) := by
  rcases ran : runFrom (session.handles.foldlM mergeNext []) (session.startProgress, host) with
    ⟨cause | merged, after⟩
  · simp [RunsLike, Succeeds, ran, loadAll_eq_error.mpr ran]
  · simp [RunsLike, Succeeds, ran, loadAll_of_fold ran]

end Session

end KernelTrace
