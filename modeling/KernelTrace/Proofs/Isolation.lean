import KernelTrace.Proofs.Ids
import KernelTrace.Proofs.Recalls
import KernelTrace.Proofs.Restarts

/-! A load draws on its own stream alone: on what its source reads, its filters, its clock and the hooks
registered for it. -/

namespace KernelTrace

variable {S H K σ : Type}

namespace HookTable

def ofStream (table : HookTable H) (stream : Handle) : HookTable H :=
  ⟨table.hooks.filter (·.stream = stream)⟩

variable [Plugin H σ] {hooks : List (Hook H)} {stream : Handle} {record : Record} {entry : Entry}

/-- As long as the hooks of a stream leave it its entries, no other hook gets to see them. -/
theorem fire_ofStream
    (keepsStream : ∀ hook ∈ hooks, hook.stream = stream → Plugin.Keeps hook.plugin Entry.stream)
    (own : entry.stream = stream) (host : σ) :
    runFrom (fire record (hooks.filter (·.stream = stream)) entry) host =
      runFrom (fire record hooks entry) host := by
  induction hooks generalizing entry host with
  | nil => rfl
  | cons hook hooks ih =>
      have others : ∀ other ∈ hooks, other.stream = stream →
          Plugin.Keeps other.plugin Entry.stream :=
        fun other member => keepsStream other (List.mem_cons_of_mem hook member)
      by_cases mine : hook.stream = stream
      · rw [List.filter_cons_of_pos (by simpa using mine)]
        cases answers : hook.answers entry.stream entry.eventId with
        | false =>
            rw [fire_cons_of_passes answers, fire_cons_of_passes answers]
            exact ih others own host
        | true =>
            rw [fire_cons_of_answers answers, fire_cons_of_answers answers]
            apply runFrom_bind_congr
            intro turned middle seen
            have kept : turned.stream = entry.stream :=
              keepsStream hook List.mem_cons_self mine record entry turned ⟨host, middle, seen⟩
            rw [runFrom_bind, runFrom_bind, ih others (kept.trans own) middle]
      · have passes : hook.answers entry.stream entry.eventId = false := by
          simp [Hook.answers, own, mine]
        rw [List.filter_cons_of_neg (by simpa using mine), fire_cons_of_passes passes]
        exact ih others own host

end HookTable

namespace Loader

variable [Plugin H σ] {loader : Loader H}

def own (loader : Loader H) : Loader H :=
  { loader with hooks := loader.hooks.ofStream loader.stream }

theorem withMarkers_own (pairs : List (Record × Entry)) (previous : Option Int64) :
    loader.own.withMarkers previous pairs = loader.withMarkers previous pairs := by
  induction pairs generalizing previous with
  | nil => rfl
  | cons pair pairs ih =>
      rw [withMarkers, withMarkers, ih]
      rfl

section

variable (keepsStream : ∀ hook ∈ loader.own.hooks.hooks, Plugin.Keeps hook.plugin Entry.stream)

include keepsStream

theorem entry_own (record : Record) (host : σ) :
    runFrom (loader.own.entry record) host = runFrom (loader.entry record) host := by
  have fired : runFrom (loader.own.hooks.dispatch record (loader.own.draft record)) host =
      runFrom (loader.hooks.dispatch record (loader.draft record)) host := by
    have drafted : (loader.draft record).stream = loader.stream := rfl
    refine HookTable.fire_ofStream (fun hook member mine => ?_) drafted host
    exact keepsStream hook (List.mem_filter.mpr ⟨member, decide_eq_true mine⟩)
  rw [entry, entry, runFrom_bind, runFrom_bind, fired]
  rfl

theorem build_own (records : List Record) (host : σ) :
    loader.own.build records host = loader.build records host := by
  induction records generalizing host with
  | nil => rfl
  | cons record records ih =>
      have same := entry_own keepsStream record host
      unfold runFrom at same
      simp only [build, same]
      rcases (loader.entry record).run.run host with ⟨panic | entry, middle⟩
      · rfl
      · simp only [ih middle]

theorem buildLanes_own (lanes : List (List Record)) (host : σ) :
    loader.own.buildLanes lanes host = loader.buildLanes lanes host := by
  induction lanes generalizing host with
  | nil => rfl
  | cons lane lanes ih => simp only [buildLanes, build_own keepsStream, ih]

theorem run_own [RecordSource S] (source : S) (host : σ) :
    loader.own.run source host = loader.run source host := by
  have marked : loader.own.withMarkers none = loader.withMarkers none :=
    funext fun pairs => withMarkers_own pairs none
  simp only [run, buildLanes_own keepsStream, marked]

end

end Loader

theorem CollectionStore.others_of_resetStream (store : CollectionStore K) (stream : Handle) :
    (store.resetStream stream).collections.filter (·.key.stream ≠ stream) =
      store.collections.filter (·.key.stream ≠ stream) := by
  rw [resetStream]
  induction store.collections with
  | nil => rfl
  | cons collection collections ih =>
      by_cases own : collection.key.stream = stream
      · simpa [own, Collection.reset] using ih
      · simpa [own] using ih

namespace LoadReport

def panics (report : LoadReport) : Bool :=
  match report.outcome with
  | .error (.panic _) => true
  | _ => false

def addTo (report : LoadReport) (tasks : IdSet) : IdSet :=
  match report.outcome with
  | .error _ => tasks
  | .ok loaded => tasks.union loaded.tasks

theorem addTo_addTo (report : LoadReport) (tasks : IdSet) :
    report.addTo (report.addTo tasks) = report.addTo tasks := by
  unfold addTo
  split
  · rfl
  · exact IdSet.union_union

end LoadReport

def Stream.settled (stream : Stream S) (source : S) (report : LoadReport) : Stream S :=
  { stream with
    source
    poisoned := stream.poisoned || report.panics
    tasks := report.addTo stream.tasks }

/-- The second stream loads from the same records, under the same filters and the same clock. -/
structure Stream.LoadsAlike [RecordSource S] (stream twin : Stream S) : Prop where
  records : ReadsAlike stream.source twin.source
  filters : twin.filters = stream.filters
  clock : twin.clock = stream.clock

namespace Session

variable {session other : Session S H K} {handle : Handle} {stream twin : Stream S} {host : σ}

theorem Sound.handle_of_stream (sound : session.Sound) (found : session.stream handle = .ok stream) :
    stream.handle = handle :=
  sound.coherent.handle_of_find? (Registry.get_eq_ok.mp found)

theorem others_of_settle (session : Session S H K) (source : S) (report : LoadReport) :
    (∀ neighbour, neighbour ≠ handle →
      (session.settle handle source report).stream neighbour = session.stream neighbour) ∧
    (session.settle handle source report).collections.collections.filter
        (·.key.stream ≠ handle) =
      session.collections.collections.filter (·.key.stream ≠ handle) := by
  constructor
  · intro neighbour differ
    obtain ⟨change, _, same⟩ := settle_streams session handle source report
    rw [Session.stream, same]
    exact stream_modify_of_ne differ
  · rcases report with ⟨(fault | panic) | loaded, completed⟩
    · rfl
    · rfl
    · exact session.collections.others_of_resetStream handle

theorem stream_settle (found : session.stream handle = .ok stream) (source : S)
    (report : LoadReport) :
    (session.settle handle source report).stream handle = .ok (stream.settled source report) := by
  have modified : ∀ change : Stream S → Stream S,
      (session.modifyStream handle change).stream handle = .ok (change stream) := by
    intro change
    rw [stream_modify, found]
    rfl
  rcases report with ⟨(fault | panic) | loaded, completed⟩
  · rw [Stream.settled, LoadReport.panics, Bool.or_false]
    exact modified _
  · rw [Stream.settled, LoadReport.panics, Bool.or_true]
    exact modified _
  · rw [Stream.settled, LoadReport.panics, Bool.or_false]
    exact modified _

variable [RecordSource S] [Plugin H σ] {result : Except Failure (List Entry)}
  {after : Session S H K × σ}

theorem readStream_of_open (found : session.stream handle = .ok stream)
    (unspoilt : stream.poisoned = false) (host : σ) :
    runFrom (readStream handle) (session, host) =
      (((session.loader stream).run stream.source host).1.outcome.map (·.entries),
        session.settle handle (readAll stream.source).2
          ((session.loader stream).run stream.source host).1,
        ((session.loader stream).run stream.source host).2.2) := by
  have usable := Stream.usable_eq_ok.mpr ⟨unspoilt, rfl⟩
  simp only [readStream, runFrom_mk, found, usable]
  rfl

theorem load_of_open (found : session.stream handle = .ok stream)
    (unspoilt : stream.poisoned = false)
    (ran : runFrom (load handle) (session, host) = (result, after)) :
    result = ((session.loader stream).run stream.source host).1.outcome.map (·.entries) ∧
      after.1 = session.startProgress.settle handle (readAll stream.source).2
        ((session.loader stream).run stream.source host).1 := by
  have here : session.startProgress.stream handle = .ok stream := found
  rw [load_eq, readStream_of_open here unspoilt] at ran
  cases ran
  exact ⟨rfl, rfl⟩

theorem stream_of_load (found : session.stream handle = .ok stream)
    (unspoilt : stream.poisoned = false)
    (ran : runFrom (load handle) (session, host) = (result, after))
    (noPanic : ∀ panic, result ≠ .error (.panic panic)) :
    ∃ twin, after.1.stream handle = .ok twin ∧ twin.poisoned = false ∧
      twin = stream.settled (readAll stream.source).2
        ((session.loader stream).run stream.source host).1 := by
  have here : session.startProgress.stream handle = .ok stream := found
  obtain ⟨given, settled⟩ := load_of_open found unspoilt ran
  refine ⟨_, by rw [settled, stream_settle here], ?_, rfl⟩
  rw [Stream.settled, unspoilt, Bool.false_or, LoadReport.panics]
  split
  · rename_i panic panicked
    rw [panicked] at given
    exact absurd given (noPanic panic)
  · rfl

theorem others_of_load (ran : runFrom (load handle) (session, host) = (result, after)) :
    (∀ neighbour, neighbour ≠ handle → after.1.stream neighbour = session.stream neighbour) ∧
    after.1.collections.collections.filter (·.key.stream ≠ handle) =
      session.collections.collections.filter (·.key.stream ≠ handle) := by
  rw [load_eq, readStream, runFrom_mk] at ran
  dsimp only at ran
  split at ran
  · cases ran
    exact ⟨fun _ _ => rfl, rfl⟩
  · split at ran
    · cases ran
      exact ⟨fun _ _ => rfl, rfl⟩
    · cases ran
      exact others_of_settle session.startProgress _ _

section

variable (hooks : other.hooks.ofStream handle = session.hooks.ofStream handle)
  (functions : ∀ hook ∈ (session.hooks.ofStream handle).hooks, Plugin.IsFunction hook.plugin)
  (keepsStream : ∀ hook ∈ (session.hooks.ofStream handle).hooks,
    Plugin.Keeps hook.plugin Entry.stream)
  (mask : other.settings.filterMask = session.settings.filterMask)

include hooks functions keepsStream mask

theorem run_alike (named : stream.handle = handle) (namedToo : twin.handle = handle)
    (restarts : Restarts stream.source) (restartsToo : Restarts twin.source)
    (alike : stream.LoadsAlike twin) (host last : σ) :
    ((other.loader twin).run twin.source last).1 =
      ((session.loader stream).run stream.source host).1 := by
  have own : (other.loader twin).own = (session.loader stream).own := by
    simp only [Loader.own, loader, named, namedToo, alike.filters, alike.clock, mask, hooks]
  have drawn : (session.loader stream).own.hooks = session.hooks.ofStream handle := by
    rw [← named]
    rfl
  rw [← drawn] at functions keepsStream
  have keepsToo := keepsStream
  rw [← own] at keepsToo
  calc ((other.loader twin).run twin.source last).1
    _ = ((other.loader twin).own.run twin.source last).1 := by rw [Loader.run_own keepsToo]
    _ = ((session.loader stream).own.run twin.source last).1 := by rw [own]
    _ = ((session.loader stream).own.run stream.source host).1 :=
      Loader.run_is_function functions (readAll_alike restarts restartsToo alike.records) host last
    _ = ((session.loader stream).run stream.source host).1 := by rw [Loader.run_own keepsStream]

end

theorem load_again (sound : session.Sound) (found : session.stream handle = .ok stream)
    (unspoilt : stream.poisoned = false) (restarts : Restarts stream.source)
    (functions : ∀ hook ∈ (session.hooks.ofStream handle).hooks, Plugin.IsFunction hook.plugin)
    (keepsStream : ∀ hook ∈ (session.hooks.ofStream handle).hooks,
      Plugin.Keeps hook.plugin Entry.stream)
    {again : Except Failure (List Entry)} {final : Session S H K × σ} {last : σ}
    (ran : runFrom (load handle) (session, host) = (result, after))
    (noPanic : ∀ panic, result ≠ .error (.panic panic))
    (reran : runFrom (load handle) (after.1, last) = (again, final)) :
    again = result ∧ final.1.tasks handle = after.1.tasks handle := by
  have named := sound.handle_of_stream found
  obtain ⟨given, settled⟩ := load_of_open found unspoilt ran
  obtain ⟨twin, there, unspoiltToo, left⟩ := stream_of_load found unspoilt ran noPanic
  obtain ⟨regiven, _⟩ := load_of_open there unspoiltToo reran
  have touched : Touched stream.source twin.source := by
    rw [left]
    exact restarts.touched_readAll .unread
  have hooks : after.1.hooks = session.hooks := by rw [settled, settle_hooks]; rfl
  have settings : after.1.settings = session.settings := by rw [settled, settle_settings]; rfl
  -- the loaded stream differs from the first in its place and its tasks, which a load does not ask for
  have same : ((after.1.loader twin).run twin.source last).1 =
      ((session.loader stream).run stream.source host).1 := by
    apply run_alike (congrArg (HookTable.ofStream · handle) hooks) functions keepsStream
      (congrArg Settings.filterMask settings) named (by rw [left]; exact named) restarts
      (restarts.touched touched)
    exact ⟨restarts _ touched, by rw [left]; rfl, by rw [left]; rfl⟩
  have repeated : again = result := by rw [regiven, given, same]
  subst repeated
  obtain ⟨last, ending, _, settledToo⟩ := stream_of_load there unspoiltToo reran noPanic
  refine ⟨rfl, ?_⟩
  rw [tasks, tasks, there, ending, settledToo, same, left]
  exact congrArg Except.ok (LoadReport.addTo_addTo _ _)

/-- Loading a stream draws on nothing but that stream: in two sessions that callers can reach, where
its sources read alike and its filters, its clock, the filter mask and the hooks registered for it are
the same, a load of it gives the same, whatever the other streams, their hooks, the collections and
the earlier reads. Its hooks may be any functions of record and entry that leave it the entry.

It leaves each other stream and the collections of those as they were. Done once more, a load that
did not panic gives the same again and leaves the tasks as they were. -/
theorem load_is_isolated [DecidableEq H] [DecidableEq K] [Condition K]
    (reachable : Reachable session) (elsewhere : Reachable other)
    (found : session.stream handle = .ok stream) (there : other.stream handle = .ok twin)
    (unspoilt : stream.poisoned = false) (unspoiltToo : twin.poisoned = false)
    (restarts : Restarts stream.source) (restartsToo : Restarts twin.source)
    (alike : stream.LoadsAlike twin)
    (mask : other.settings.filterMask = session.settings.filterMask)
    (hooks : other.hooks.ofStream handle = session.hooks.ofStream handle)
    (functions : ∀ hook ∈ (session.hooks.ofStream handle).hooks, Plugin.IsFunction hook.plugin)
    (keepsStream : ∀ hook ∈ (session.hooks.ofStream handle).hooks,
      Plugin.Keeps hook.plugin Entry.stream) (host last : σ) :
    (runFrom (load handle) (other, last)).1 = (runFrom (load handle) (session, host)).1 ∧
    ∀ result after, runFrom (load handle) (session, host) = (result, after) →
      (∀ neighbour, neighbour ≠ handle → after.1.stream neighbour = session.stream neighbour) ∧
      after.1.collections.collections.filter (·.key.stream ≠ handle) =
        session.collections.collections.filter (·.key.stream ≠ handle) ∧
      ((∀ panic, result ≠ .error (.panic panic)) →
        ∀ again final, runFrom (load handle) after = (again, final) →
          again = result ∧ final.1.tasks handle = after.1.tasks handle) := by
  have named := reachable.sound.handle_of_stream found
  have namedToo := elsewhere.sound.handle_of_stream there
  have same := run_alike hooks functions keepsStream mask named namedToo restarts restartsToo alike
    host last
  constructor
  · rcases ran : runFrom (load handle) (session, host) with ⟨result, after⟩
    rcases ranToo : runFrom (load handle) (other, last) with ⟨resultToo, afterToo⟩
    obtain ⟨given, _⟩ := load_of_open found unspoilt ran
    obtain ⟨givenToo, _⟩ := load_of_open there unspoiltToo ranToo
    rw [given, givenToo, same]
  · intro result after ran
    obtain ⟨streams, collections⟩ := others_of_load ran
    refine ⟨streams, collections, fun noPanic again final reran => ?_⟩
    exact load_again reachable.sound found unspoilt restarts functions keepsStream ran noPanic reran

def crowdedStream : Stream (Replay ⊕ Script) :=
  { handle := ⟨1, 0⟩, name := "b", cpuCount := 1, source := .inr (.ofLists [lateRecords] none none) }

/-- The session with one hooked stream and another one, whose hook comes first and panics. -/
def crowdedSession (replay : Replay) : Session (Replay ⊕ Script) JournalPlugin ExtraCondition :=
  { settings := {}
    streams :=
      { limit := 127
        slots := [{ stream := some (hookedStream replay) }, { stream := some crowdedStream }] }
    hooks := ⟨[⟨1, ⟨1, 0⟩, { serial := 1, label := "b", edit := .panics "" }⟩,
      ⟨1, ⟨0, 0⟩, { serial := 0, label := "a", edit := .setPid 5 }⟩]⟩ }

theorem reachable_crowdedSession (replay : Replay) : Reachable (crowdedSession replay) := by
  have first := (Reachable.start (Replay ⊕ Script) JournalPlugin ExtraCondition).act []
    (.addSource "a" (.inl replay))
  have second := first.act [] (.addSource "b" (.inr (.ofLists [lateRecords] none none)))
  have hooked := second.act [] (.addHook 1 ⟨1, 0⟩ { serial := 1, label := "b", edit := .panics "" })
  exact hooked.act [] (.addHook 1 ⟨0, 0⟩ { serial := 0, label := "a", edit := .setPid 5 })

theorem load_crowdedSession :
    ∃ replay after final, Replay.ofDocument hookedDocument = .ok (.ok replay) ∧
      runFrom (load ⟨0, 0⟩) (crowdedSession replay, []) = (.ok hookedEntries, after) ∧
      after.1.stream ⟨1, 0⟩ = .ok crowdedStream ∧
      runFrom (load ⟨0, 0⟩) after = (.ok hookedEntries, final) ∧
      final.1.tasks ⟨0, 0⟩ = after.1.tasks ⟨0, 0⟩ := by
  obtain ⟨replay, made⟩ := Replay.ofDocument_eq_ok_iff.mpr hookedDocument_opens
  have restarts : Restarts (.inl replay : Replay ⊕ Script) :=
    (Replay.isTape hookedDocument).inl.restarts (Replay.sound_of_document made)
  have own : (crowdedSession replay).hooks.ofStream ⟨0, 0⟩ = ⟨[sampleHook]⟩ := rfl
  have functions : ∀ hook ∈ [sampleHook], Plugin.IsFunction hook.plugin :=
    fun hook _ => hook.plugin.is_function
  have keepsStream : ∀ hook ∈ [sampleHook], Plugin.Keeps hook.plugin Entry.stream := by
    intro hook member
    rw [List.mem_singleton.mp member]
    exact JournalPlugin.keeps_of_setPid rfl fun _ _ => rfl
  have found : (crowdedSession replay).stream ⟨0, 0⟩ = .ok (hookedStream replay) := rfl
  have alone : (hookedSession replay).stream ⟨0, 0⟩ = .ok (hookedStream replay) := rfl
  obtain ⟨same, leaves⟩ := load_is_isolated (reachable_crowdedSession replay)
    (reachable_hookedSession replay) found alone rfl rfl restarts restarts
    ⟨.refl _, rfl, rfl⟩ rfl rfl functions keepsStream [] []
  obtain ⟨_, loaded⟩ := load_hookedSession made
  rcases ran : runFrom (load ⟨0, 0⟩) (crowdedSession replay, []) with ⟨result, after⟩
  rw [loaded, ran] at same
  cases same
  obtain ⟨others, _, again⟩ := leaves _ after ran
  rcases reran : runFrom (load ⟨0, 0⟩) after with ⟨repeated, final⟩
  obtain ⟨rfl, tasks⟩ := again (fun panic same => nomatch same) repeated final reran
  exact ⟨replay, after, final, made, ran, others ⟨1, 0⟩ (by decide), reran, tasks⟩

end Session

end KernelTrace
