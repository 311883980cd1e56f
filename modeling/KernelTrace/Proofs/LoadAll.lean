import KernelTrace.Proofs.Alike
import KernelTrace.Query.Selector

namespace KernelTrace.Session

variable {S H K σ : Type} {session later : Session S H K} {host : σ} {handle : Handle}
  {handles : List Handle}

/-- Steps that each merge what their stream gives, taken over all streams, merge it all. The
invariant may speak of a count to which every step adds its records. -/
theorem foldlM_gives {holds : Nat → Session S H K → Prop}
    {step : List Entry → Handle → SessionStep S H K σ (List Entry)} {give : Handle → List Entry}
    (counted : Handle → List Record)
    (each : ∀ handle ∈ handles, ∀ merged total later (other : σ), holds total later →
      ∃ after, runFrom (step merged handle) (later, other) =
          (.ok (mergePair merged (give handle)), after) ∧
        holds (total + (counted handle).length) after.1)
    (start : List Entry) (total : Nat) (ready : holds total session) (host : σ) :
    ∃ after, runFrom (handles.foldlM step start) (session, host) =
        (.ok ((handles.map give).foldl mergePair start), after) ∧
      holds (total + (handles.flatMap counted).length) after.1 := by
  induction handles generalizing start total session host with
  | nil => exact ⟨(session, host), rfl, ready⟩
  | cons handle handles ih =>
      obtain ⟨middle, ran, kept⟩ := each handle List.mem_cons_self start total session host ready
      have others := fun other member => each other (List.mem_cons_of_mem handle member)
      obtain ⟨after, rest, last⟩ := ih others (mergePair start (give handle)) _ kept middle.2
      refine ⟨after, ?_, ?_⟩
      · rw [List.foldlM_cons, runFrom_bind_ok ran, rest]
        rfl
      · rw [List.flatMap_cons, List.length_append, ← Nat.add_assoc]
        exact last

variable [RecordSource S] [Plugin H σ]

def records (session : Session S H K) (handle : Handle) : List Record :=
  match session.stream handle with
  | .error _ => []
  | .ok stream => (readAll stream.source).1.lanes.flatten

theorem records_of_delivers {stream : Stream S} {lanes : List (List Record)} {finish : S}
    (found : session.stream handle = .ok stream) (delivers : Delivers stream.source lanes finish) :
    session.records handle = lanes.flatten := by
  rw [records, found]
  dsimp only
  rw [readAll_eq_iff.mpr delivers]

def Gives (session : Session S H K) (host : σ) (handle : Handle) (list : List Entry) : Prop :=
  ∃ stream loaded, session.stream handle = .ok stream ∧ stream.poisoned = false ∧
    ((session.loader stream).run stream.source host).1.outcome = .ok loaded ∧
    loaded.entries = list

theorem gives_of_load {list : List Entry}
    (loads : (runFrom (load handle) (session, host)).1 = .ok list) :
    session.Gives host handle list := by
  rw [load_eq] at loads
  obtain ⟨stream, loaded, found, unspoilt, outcome, rfl, _⟩ :=
    readStream_eq_ok (Prod.ext loads rfl)
  exact ⟨stream, loaded, found, unspoilt, outcome, rfl⟩

theorem Gives.streams {list : List Entry} (gives : session.Gives host handle list)
    (sound : session.Sound)
    (keepsStream : ∀ hook ∈ session.hooks.hooks, Plugin.Keeps hook.plugin Entry.stream) :
    ∀ entry ∈ list, entry.stream = handle := by
  obtain ⟨stream, loaded, found, _, outcome, rfl⟩ := gives
  intro entry member
  rw [Loader.stream_of_run keepsStream outcome member]
  exact sound.coherent.handle_of_find? (Registry.get_eq_ok.mp found)

theorem completed_of_run {stream : Stream S} {loaded : LoadResult}
    (found : session.stream handle = .ok stream)
    (outcome : ((session.loader stream).run stream.source host).1.outcome = .ok loaded) :
    ((session.loader stream).run stream.source host).1.completed =
      (session.records handle).length := by
  have delivers := Loader.delivers_of_run_ok outcome
  rw [Loader.run_completed delivers (Loader.run_eq_ok delivers outcome).1,
    records_of_delivers found delivers]

section

variable {list : List Entry}
  (functions : ∀ hook ∈ session.hooks.hooks, Plugin.IsFunction hook.plugin)
  (replays : ∀ handle stream, session.stream handle = .ok stream → Replays stream.source)
  (gives : session.Gives host handle list) (unchanged : Unchanged session later)

include functions replays gives unchanged

theorem readStream_gives (other : σ) :
    ∃ after, runFrom (readStream handle) (later, other) = (.ok list, after) ∧
      Unchanged session after.1 ∧
      after.1.progress = later.progress + (session.records handle).length := by
  obtain ⟨stream, loaded, found, unspoilt, outcome, rfl⟩ := gives
  obtain ⟨again, there, still, report⟩ :=
    run_again functions unchanged found (replays handle stream found)
  have completed := completed_of_run found outcome
  rw [← report host other] at outcome completed
  obtain ⟨after, read, leaves, progress⟩ :=
    readStream_leaves there (still.trans unspoilt) outcome
  rw [completed] at progress
  exact ⟨after, read, unchanged.trans leaves, progress⟩

theorem mergeNext_gives (merged : List Entry) (other : σ) :
    ∃ after, runFrom (mergeNext merged handle) (later, other) =
        (.ok (mergePair merged list), after) ∧
      Unchanged session after.1 ∧
      after.1.progress = later.progress + (session.records handle).length := by
  obtain ⟨after, read, kept⟩ := readStream_gives functions replays gives unchanged other
  exact ⟨after, runFrom_bind_ok read, kept⟩

theorem load_gives (other : σ) :
    ∃ after, runFrom (load handle) (later, other) = (.ok list, after) ∧
      Unchanged session after.1 := by
  have started : Unchanged session later.startProgress :=
    unchanged.trans (unchanged_of_streams rfl rfl rfl)
  obtain ⟨after, read, leaves, _⟩ := readStream_gives functions replays gives started other
  rw [load_eq]
  exact ⟨after, read, leaves⟩

theorem append_gives (merged : List Entry) (other : σ) :
    ∃ after, runFrom (append merged handle none) (later, other) =
        (.ok (mergePair merged list), after) ∧
      Unchanged session after.1 := by
  obtain ⟨middle, loaded, leaves⟩ := load_gives functions replays gives unchanged other
  exact ⟨_, append_of_load loaded, leaves.trans (unchanged_of_streams rfl rfl rfl)⟩

end

theorem gives_of_readStream {list : List Entry} {other : σ} {after : Session S H K × σ}
    (functions : ∀ hook ∈ session.hooks.hooks, Plugin.IsFunction hook.plugin)
    (replays : ∀ handle stream, session.stream handle = .ok stream → Replays stream.source)
    (unchanged : Unchanged session later)
    (ran : runFrom (readStream handle) (later, other) = (.ok list, after)) (host : σ) :
    session.Gives host handle list := by
  obtain ⟨stream, loaded, found, unspoilt, outcome, rfl, _⟩ := readStream_eq_ok ran
  cases first : session.stream handle with
  | error fault =>
      rw [unchanged.closed handle fault first] at found
      cases found
  | ok before =>
      obtain ⟨again, there, still, report⟩ :=
        run_again functions unchanged first (replays handle before first)
      rw [there] at found
      cases found
      rw [report host other] at outcome
      exact ⟨before, loaded, first, still.symm.trans unspoilt, outcome, rfl⟩

theorem gives_of_fold {start merged : List Entry} {other : σ} {after : Session S H K × σ}
    (functions : ∀ hook ∈ session.hooks.hooks, Plugin.IsFunction hook.plugin)
    (replays : ∀ handle stream, session.stream handle = .ok stream → Replays stream.source)
    (unchanged : Unchanged session later)
    (ran : runFrom (handles.foldlM mergeNext start) (later, other) = (.ok merged, after))
    (host : σ) : ∀ handle ∈ handles, ∃ list, session.Gives host handle list := by
  induction handles generalizing later start other with
  | nil => exact List.forall_mem_nil _
  | cons handle handles ih =>
      rw [List.foldlM_cons] at ran
      obtain ⟨_, middle, first, rest⟩ := runFrom_bind_eq_ok ran
      obtain ⟨list, _, read, given⟩ := runFrom_bind_eq_ok first
      cases given
      have gives := gives_of_readStream functions replays unchanged read host
      obtain ⟨_, again, leaves, _⟩ := readStream_gives functions replays gives unchanged other
      rw [read] at again
      cases again
      exact List.forall_mem_cons.mpr ⟨⟨list, gives⟩, ih leaves rest⟩

theorem gives_of_loadAll {merged : List Entry} {after : Session S H K × σ}
    (functions : ∀ hook ∈ session.hooks.hooks, Plugin.IsFunction hook.plugin)
    (replays : ∀ handle stream, session.stream handle = .ok stream → Replays stream.source)
    (ran : runFrom loadAll (session, host) = (.ok merged, after)) :
    ∃ arrays : Handle → List Entry,
      ∀ handle ∈ session.handles, session.Gives host handle (arrays handle) := by
  obtain ⟨loaded, folded, _⟩ := loadAll_eq_ok ran
  have started : Unchanged session session.startProgress := unchanged_of_streams rfl rfl rfl
  have gives := gives_of_fold functions replays started folded host
  choose! arrays gives using gives
  exact ⟨arrays, gives⟩

section

variable {arrays : Handle → List Entry}
  (functions : ∀ hook ∈ session.hooks.hooks, Plugin.IsFunction hook.plugin)
  (replays : ∀ handle stream, session.stream handle = .ok stream → Replays stream.source)
  (gives : ∀ handle ∈ session.handles, session.Gives host handle (arrays handle))
  (unchanged : Unchanged session later)

include functions replays gives unchanged

theorem loadAll_gives (other : σ) :
    ∃ after, runFrom loadAll (later, other) =
        (.ok (mergeLanes (session.handles.map arrays)), after) ∧
      Unchanged session after.1 ∧
      after.1.progress = (session.handles.flatMap session.records).length := by
  have started : Unchanged session later.startProgress :=
    unchanged.trans (unchanged_of_streams rfl rfl rfl)
  have each : ∀ handle ∈ session.handles, ∀ merged total middle (other : σ),
      (Unchanged session middle ∧ middle.progress = total) →
        ∃ after, runFrom (mergeNext merged handle) (middle, other) =
            (.ok (mergePair merged (arrays handle)), after) ∧
          (Unchanged session after.1 ∧
            after.1.progress = total + (session.records handle).length) := by
    intro handle member merged total middle other ⟨unchanged, progress⟩
    rw [← progress]
    exact mergeNext_gives functions replays (gives handle member) unchanged merged other
  obtain ⟨after, folded, leaves, progress⟩ :=
    foldlM_gives session.records each [] 0 ⟨started, rfl⟩ other
  rw [foldl_mergePair, mergeTwo_nil_left, ← unchanged.handles] at folded
  rw [loadAll_of_fold folded, unchanged.handles]
  refine ⟨_, rfl, leaves.trans (unchanged_of_streams rfl rfl rfl), ?_⟩
  rw [Nat.zero_add] at progress
  exact progress

theorem foldlM_append_gives (other : σ) :
    ∃ after, runFrom (session.handles.foldlM (append · · none) []) (later, other) =
      (.ok (mergeLanes (session.handles.map arrays)), after) := by
  have each : ∀ handle ∈ session.handles, ∀ merged (total : Nat) middle (other : σ),
      Unchanged session middle →
        ∃ after, runFrom (append merged handle none) (middle, other) =
            (.ok (mergePair merged (arrays handle)), after) ∧ Unchanged session after.1 := by
    intro handle member merged _ middle other unchanged
    exact append_gives functions replays (gives handle member) unchanged merged other
  obtain ⟨after, folded, _⟩ := foldlM_gives (fun _ => []) each [] 0 unchanged other
  rw [foldl_mergePair, mergeTwo_nil_left] at folded
  exact ⟨after, folded⟩

end

/-- What loads, and appends that set no clock, make of a session, whether they succeed or not. -/
inductive Reloaded (session : Session S H K) : Session S H K → Prop
  | fresh : Reloaded session session
  | loaded {later : Session S H K} {host : σ} {handle : Handle} :
      Reloaded session later → Reloaded session (runFrom (load handle) (later, host)).2.1
  | loadedAll {later : Session S H K} {host : σ} :
      Reloaded session later → Reloaded session (runFrom loadAll (later, host)).2.1
  | appended {later : Session S H K} {host : σ} {prior : List Entry} {handle : Handle} :
      Reloaded session later →
      Reloaded session (runFrom (append prior handle none) (later, host)).2.1

section

variable {arrays : Handle → List Entry} (sound : session.Sound)
  (functions : ∀ hook ∈ session.hooks.hooks, Plugin.IsFunction hook.plugin)
  (replays : ∀ handle stream, session.stream handle = .ok stream → Replays stream.source)
  (gives : ∀ handle ∈ session.handles, session.Gives host handle (arrays handle))

include sound functions replays gives

theorem unchanged_of_load (unchanged : Unchanged session later) (handle : Handle) (other : σ) :
    Unchanged session (runFrom (load handle) (later, other)).2.1 := by
  cases found : session.stream handle with
  | error fault =>
      rw [load_of_unusable (usableSource_of_closed (unchanged.closed handle fault found))]
      exact unchanged.trans (unchanged_of_streams rfl rfl rfl)
  | ok stream =>
      have member : handle ∈ session.handles :=
        sound.coherent.mem_handles.mpr ⟨stream, Registry.get_eq_ok.mp found⟩
      obtain ⟨after, loaded, leaves⟩ :=
        load_gives functions replays (gives handle member) unchanged other
      rw [loaded]
      exact leaves

theorem Reloaded.unchanged (reloaded : Reloaded session later) : Unchanged session later := by
  induction reloaded with
  | fresh => exact .refl session
  | loaded _ ih => exact unchanged_of_load sound functions replays gives ih _ _
  | @loadedAll later host _ ih =>
      obtain ⟨after, loaded, leaves, _⟩ := loadAll_gives functions replays gives ih host
      rw [loaded]
      exact leaves
  | @appended later host prior handle _ ih =>
      have middle := unchanged_of_load sound functions replays gives ih handle host
      change Unchanged session (runFrom (load handle >>= _) (later, host)).2.1
      rw [runFrom_bind]
      split
      · rename_i entries after loaded
        rw [loaded] at middle
        exact middle.trans (unchanged_of_streams rfl rfl rfl)
      · rename_i cause after loaded
        rw [loaded] at middle
        exact middle

end

/-- Merging lists two by two is merging them all at once. So loading all streams, appending them one
by one and merging the lists of their loads come to the same, before and after any other loads: a
list in time order, on equal times by slot and then as loaded, of all records. -/
theorem loadAll_is_merge_of_loads [DecidableEq H] [DecidableEq K] [Condition K] :
    (∀ lists : List (List Entry), lists.foldl mergePair [] = mergeLanes lists) ∧
      ∀ {session : Session S H K} {host : σ} {arrays : Handle → List Entry}, Reachable session →
        (∀ hook ∈ session.hooks.hooks, Plugin.IsFunction hook.plugin) →
        (∀ handle stream, session.stream handle = .ok stream → Replays stream.source) →
        (∀ handle ∈ session.handles,
          (runFrom (load handle) (session, host)).1 = .ok (arrays handle) ∧
            isOrdered (arrays handle)) →
        session.handles.Pairwise (fun a b => a.slot < b.slot) ∧
        isOrdered (mergeLanes (session.handles.map arrays)) ∧
        (∀ time, (mergeLanes (session.handles.map arrays)).filter (·.ts = time) =
          (session.handles.map arrays).flatten.filter (·.ts = time)) ∧
        ∀ later, Reloaded session later → ∀ other : σ,
          (∃ after, runFrom loadAll (later, other) =
              (.ok (mergeLanes (session.handles.map arrays)), after) ∧
            after.1.progress = (session.handles.flatMap session.records).length) ∧
          ∃ after, runFrom (session.handles.foldlM (append · · none) []) (later, other) =
            (.ok (mergeLanes (session.handles.map arrays)), after) := by
  refine ⟨fun lists => by rw [foldl_mergePair, mergeTwo_nil_left], ?_⟩
  intro session host arrays reachable functions replays loads
  have sound := reachable.sound
  have gives : ∀ handle ∈ session.handles, session.Gives host handle (arrays handle) :=
    fun handle member => gives_of_load (loads handle member).1
  have ordered : ∀ list ∈ session.handles.map arrays, isOrdered list := by
    intro list member
    obtain ⟨handle, listed, rfl⟩ := List.mem_map.mp member
    exact (loads handle listed).2
  refine ⟨sound.coherent.handles_ascending, mergeLanes_ordered ordered, ?_, ?_⟩
  · intro time
    exact mergeLanes_filter_time time ordered
  · intro later reloaded other
    have unchanged := reloaded.unchanged sound functions replays gives
    obtain ⟨after, loaded, _, progress⟩ := loadAll_gives functions replays gives unchanged other
    exact ⟨⟨after, loaded, progress⟩, foldlM_append_gives functions replays gives unchanged other⟩

def scriptedStream (slot : UInt16) (records : List Record) : Stream Script :=
  { handle := ⟨slot, 0⟩, name := "a", cpuCount := 1, source := .ofLists [records] none none }

def earlyRecords : List Record := [⟨10, 0, 7, 1, 0, 0, []⟩, ⟨20, 0, 8, 2, 1, 0, []⟩]

def lateRecords : List Record := [⟨20, 0, 9, 1, 0, 0, []⟩, ⟨20, 0, 7, 2, 1, 0, []⟩]

def sampleHook : Hook JournalPlugin := ⟨1, ⟨0, 0⟩, { serial := 0, label := "a", edit := .setPid 5 }⟩

def pairedSession : Session Script JournalPlugin ExtraCondition :=
  { settings := {}
    streams :=
      { limit := 127
        slots := [{ stream := some (scriptedStream 0 earlyRecords) },
          { stream := some (scriptedStream 1 lateRecords) }] }
    hooks := ⟨[sampleHook]⟩ }

def pairedEntries (handle : Handle) : List Entry :=
  if handle.slot = 0 then
    [⟨⟨0, 0⟩, 0, 5, 1, 10, 0, 0x7F⟩, ⟨⟨0, 0⟩, 0, 8, 2, 20, 1, View.all⟩]
  else [⟨⟨1, 0⟩, 0, 9, 1, 20, 0, View.all⟩, ⟨⟨1, 0⟩, 0, 7, 2, 20, 1, View.all⟩]

theorem reachable_pairedSession : Reachable pairedSession := by
  have first := (Reachable.start Script JournalPlugin ExtraCondition).act []
    (.addSource "a" (.ofLists [earlyRecords] none none))
  have second := first.act [] (.addSource "a" (.ofLists [lateRecords] none none))
  exact second.act [] (.addHook sampleHook.eventId sampleHook.stream sampleHook.plugin)

theorem streams_of_pairedSession {stream : Stream Script}
    (found : pairedSession.stream handle = .ok stream) :
    ∃ slot records, stream = scriptedStream slot records := by
  have member := Registry.mem_streams_of_find? (Registry.get_eq_ok.mp found)
  rcases List.mem_pair.mp member with same | same
  · exact ⟨_, _, same⟩
  · exact ⟨_, _, same⟩

theorem calm_sampleHook : ∀ hook ∈ [sampleHook], Plugin.IsCalm hook.plugin := by
  intro hook member
  rw [List.mem_singleton.mp member]
  exact JournalPlugin.is_calm fun payload same => nomatch same

theorem load_pairedSession (member : handle ∈ pairedSession.handles) :
    (runFrom (load handle) (pairedSession, [])).1 = .ok (pairedEntries handle) := by
  rcases List.mem_pair.mp member with rfl | rfl
  · have found : pairedSession.stream ⟨0, 0⟩ = .ok (scriptedStream 0 earlyRecords) := rfl
    exact load_of_script found rfl rfl ⟨calm_sampleHook, fun record _ => ⟨true, rfl⟩⟩ []
  · have found : pairedSession.stream ⟨1, 0⟩ = .ok (scriptedStream 1 lateRecords) := rfl
    exact load_of_script found rfl rfl ⟨calm_sampleHook, fun record _ => ⟨true, rfl⟩⟩ []

theorem records_of_pairedSession :
    pairedSession.handles.flatMap pairedSession.records = earlyRecords ++ lateRecords := by
  have first : pairedSession.stream ⟨0, 0⟩ = .ok (scriptedStream 0 earlyRecords) := rfl
  have second : pairedSession.stream ⟨1, 0⟩ = .ok (scriptedStream 1 lateRecords) := rfl
  obtain ⟨_, early⟩ := Script.ofLists_delivers [earlyRecords]
  obtain ⟨_, late⟩ := Script.ofLists_delivers [lateRecords]
  change [⟨0, 0⟩, ⟨1, 0⟩].flatMap pairedSession.records = earlyRecords ++ lateRecords
  rw [List.flatMap_cons, List.flatMap_singleton, records_of_delivers first early,
    records_of_delivers second late]
  rfl

theorem loadAll_is_merge_of_pairedSession :
    ∃ merged after,
      runFrom loadAll ((runFrom (load ⟨1, 0⟩) (pairedSession, [])).2.1, []) = (.ok merged, after) ∧
        isOrdered merged ∧ merged.filter (·.ts = 20) = (pairedEntries ⟨0, 0⟩).tail ++
          pairedEntries ⟨1, 0⟩ ∧ after.1.progress = 4 := by
  have functions : ∀ hook ∈ pairedSession.hooks.hooks, Plugin.IsFunction hook.plugin :=
    fun hook _ => JournalPlugin.is_function hook.plugin
  have replays : ∀ handle stream, pairedSession.stream handle = .ok stream →
      Replays stream.source := by
    intro handle stream found
    obtain ⟨slot, records, rfl⟩ := streams_of_pairedSession found
    exact Script.ofLists_replays [records]
  have ordered : ∀ handle ∈ pairedSession.handles, isOrdered (pairedEntries handle) := by decide
  obtain ⟨_, ordered, time, again⟩ := loadAll_is_merge_of_loads.2 reachable_pairedSession functions
    replays fun handle member => ⟨load_pairedSession member, ordered handle member⟩
  obtain ⟨⟨after, loaded, progress⟩, _⟩ := again _ (.loaded .fresh) []
  rw [records_of_pairedSession] at progress
  exact ⟨_, after, loaded, ordered, time 20, progress⟩

end KernelTrace.Session
