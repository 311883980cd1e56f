import KernelTrace.Proofs.Spoilt

/-! Loads that a plugin or a content filter brings down: what they have completed by then, what they
leave of the session, and what of it anyone can tell later. -/

namespace KernelTrace

variable {S H K σ : Type}

namespace Loader

variable [Plugin H σ] {loader : Loader H} {records done : List Record} {host last : σ}
  {panic : Panic}

/-- Of these records the loader completes the first ones, and panics at the next. -/
def BreaksDown (loader : Loader H) (records : List Record) (host : σ) (done : List Record)
    (panic : Panic) (last : σ) : Prop :=
  ∃ struck rest made middle, records = done ++ struck :: rest ∧
    loader.build done host = (⟨made, none⟩, middle) ∧
    runFrom (loader.entry struck) middle = (.error panic, last)

theorem build_append (loader : Loader H) (first second : List Record) (host : σ) :
    loader.build (first ++ second) host =
      match loader.build first host with
      | (⟨made, some panic⟩, middle) => (⟨made, some panic⟩, middle)
      | (⟨made, none⟩, middle) =>
        (⟨made ++ (loader.build second middle).1.made, (loader.build second middle).1.panic⟩,
          (loader.build second middle).2) := by
  induction first generalizing host with
  | nil => rfl
  | cons record first ih =>
      rw [List.cons_append, build, build]
      rcases (loader.entry record).run.run host with ⟨panic | entry, middle⟩
      · rfl
      · dsimp only
        rw [ih middle]
        rcases loader.build first middle with ⟨⟨made, _ | panic⟩, last⟩ <;> rfl

theorem build_flatten (loader : Loader H) (lanes : List (List Record)) (host : σ) :
    loader.build lanes.flatten host =
      (⟨(loader.buildLanes lanes host).1.made.flatten, (loader.buildLanes lanes host).1.panic⟩,
        (loader.buildLanes lanes host).2) := by
  induction lanes generalizing host with
  | nil => rfl
  | cons lane lanes ih =>
      rw [List.flatten_cons, build_append, buildLanes]
      rcases loader.build lane host with ⟨⟨made, _ | panic⟩, middle⟩
      · dsimp only
        rw [ih middle]
        rfl
      · simp

theorem breaksDown_of_build {made : List (Record × Entry)}
    (built : loader.build records host = (⟨made, some panic⟩, last)) :
    ∃ done, loader.BreaksDown records host done panic last ∧ made.length = done.length := by
  induction records generalizing host made with
  | nil => cases built
  | cons record records ih =>
      rw [build] at built
      rcases entered : (loader.entry record).run.run host with ⟨cause | entry, middle⟩
      · rw [entered] at built
        cases built
        exact ⟨[], ⟨record, records, [], host, rfl, rfl, entered⟩, rfl⟩
      · rcases others : loader.build records middle with ⟨⟨pairs, cause⟩, final⟩
        rw [entered] at built
        dsimp only at built
        rw [others] at built
        cases built
        obtain ⟨done, ⟨struck, rest, before, there, rfl, calm, struckAt⟩, length⟩ := ih others
        refine ⟨record :: done, ⟨struck, rest, (record, entry) :: before, there, rfl, ?_, struckAt⟩,
          congrArg (· + 1) length⟩
        rw [build, entered]
        dsimp only
        rw [calm]

variable {S : Type} [RecordSource S] {source : S}

theorem run_eq_panic (ran : (loader.run source host).1.outcome = .error (.panic panic)) :
    ∃ done, loader.BreaksDown (readAll source).1.lanes.flatten host done panic
        (loader.run source host).2.2 ∧
      (loader.run source host).1.completed = done.length := by
  have flat := loader.build_flatten (readAll source).1.lanes host
  cases struck : (loader.buildLanes (readAll source).1.lanes host).1.panic with
  | none =>
      simp only [run, struck] at ran
      split at ran
      · rename_i impossible
        cases impossible
      · cases ran
      · cases ran
  | some cause =>
      simp only [run, struck] at ran
      cases ran
      rw [struck] at flat
      exact breaksDown_of_build flat

end Loader

namespace Session

theorem settle_panic (session : Session S H K) (handle : Handle) (source : S)
    {report : LoadReport} {panic : Panic} (outcome : report.outcome = .error (.panic panic)) :
    session.settle handle source report =
      { session with progress := session.progress + report.completed }.swapSource handle source
        true := by
  rw [settle, outcome]
  rfl

variable [RecordSource S] [Plugin H σ] {session later : Session S H K} {handle : Handle} {host : σ}
  {after : Session S H K × σ} {panic : Panic}

theorem load_eq_panic
    (panicked : runFrom (load handle) (session, host) = (.error (.panic panic), after)) :
    ∃ stream done, session.stream handle = .ok stream ∧ stream.poisoned = false ∧
      (session.loader stream).BreaksDown (session.records handle) host done panic after.2 ∧
      after.1 = { session with progress := done.length }.swapSource handle
        (readAll stream.source).2 true := by
  have usable : ∃ source, session.usableSource handle = .ok source := by
    cases unusable : session.usableSource handle with
    | ok source => exact ⟨source, rfl⟩
    | error fault =>
        rw [load_of_unusable unusable] at panicked
        cases panicked
  obtain ⟨source, usable⟩ := usable
  obtain ⟨stream, found, unspoilt, _⟩ := usableSource_eq_ok.mp usable
  have here : session.startProgress.stream handle = .ok stream := found
  rw [load_eq, readStream_of_open here unspoilt] at panicked
  obtain ⟨reported, left⟩ := Prod.mk.inj panicked
  have outcome := map_eq_error.mp reported
  obtain ⟨done, breaksDown, completed⟩ := Loader.run_eq_panic outcome
  rw [← left]
  refine ⟨stream, done, found, unspoilt, ?_, ?_⟩
  · rw [records, found]
    exact breaksDown
  · rw [settle_panic session.startProgress handle _ outcome, completed, startProgress]
    simp only [Nat.zero_add]

theorem struck_of_panic
    (panicked : runFrom (load handle) (session, host) = (.error (.panic panic), after)) :
    after.1.Struck handle := by
  obtain ⟨stream, done, found, _, _, left⟩ := load_eq_panic panicked
  have here : ({ session with progress := done.length } : Session S H K).stream handle =
      .ok stream := found
  refine ⟨{ stream with source := (readAll stream.source).2, poisoned := true }, ?_, rfl⟩
  rw [left, stream_swapSource, here]
  rfl

omit [Plugin H σ] in
theorem stream_of_addSource {name : String} {source : S}
    (added : session.addSource name source = .ok (handle, later)) :
    later.stream handle =
      .ok { handle, name, cpuCount := RecordSource.cpuCount source, source } := by
  obtain ⟨⟨handle, streams⟩, inserted, made⟩ := map_eq_ok.mp added
  cases made
  exact (Registry.get_insert inserted handle).trans (if_pos rfl)

variable [DecidableEq H] [DecidableEq K] [Condition K]

/-- A panic during a load is contained in the stream that was being loaded.

The load has completed some records and broken down at the next. That changes nothing of the session
but its progress, which counts those records, and the source of the stream, which is spoilt.

In every later state of the run, as long as the stream is not closed:

* Each call that needs the source is answered that a panic has spoilt it.
* Callers who do without the source cannot tell that it is not usable, whatever they do to filters,
  entries, hooks and collections, and to other streams.
* The stream can be closed, and a stream that is then opened, in its slot or another, starts as any
  other does. -/
theorem panic_is_contained (reachable : Reachable session)
    (panicked : runFrom (load handle) (session, host) = (.error (.panic panic), after)) :
    (∃ stream done, session.stream handle = .ok stream ∧
      (session.loader stream).BreaksDown (session.records handle) host done panic after.2 ∧
      after.1 = { session with progress := done.length }.swapSource handle
        (readAll stream.source).2 true ∧
      after.1.swapSource handle stream.source false = { session with progress := done.length }) ∧
    ∀ list later kept, Tended handle after.1 list later kept →
      later.Spoilt handle ∧ (∀ source, later.Conceals handle source) ∧
      ∃ closed, later.close handle = .ok closed ∧
        ∀ name source fresh opened, closed.addSource name source = .ok (fresh, opened) →
          opened.stream fresh = .ok
            { handle := fresh, name, cpuCount := RecordSource.cpuCount source, source } := by
  obtain ⟨stream, done, found, unspoilt, breaksDown, left⟩ := load_eq_panic panicked
  have here : ({ session with progress := done.length } : Session S H K).stream handle =
      .ok stream := found
  constructor
  · refine ⟨stream, done, found, breaksDown, left, ?_⟩
    have restored := swapSource_self here
    rw [unspoilt] at restored
    rw [left, swapSource_swapSource, restored]
  · intro list later kept tended
    have reached : Reachable after.1 := by
      have performed := reachable.act host (.load handle)
      rw [perform, runFrom_bind_error panicked] at performed
      exact performed
    have struck := tended.struck reached (struck_of_panic panicked)
    obtain ⟨last, there, _⟩ := id struck
    obtain ⟨closed, closes, _⟩ := close_of_open there
    have sound := (tended.reachable reached).sound
    exact ⟨spoilt_of_struck sound struck, fun source => sound.conceals there source, closed, closes,
      fun name source fresh opened added => stream_of_addSource added⟩

/-- The session with two streams, and a panicking hook on the events 2 of the first. -/
def stricken : Session Script JournalPlugin ExtraCondition :=
  { pairedSession with
    hooks := ⟨[⟨2, ⟨0, 0⟩, { serial := 0, label := "a", edit := .panics "late" }⟩]⟩ }

theorem reachable_stricken : Reachable stricken := by
  have first := (Reachable.start Script JournalPlugin ExtraCondition).act []
    (.addSource "a" (.ofLists [earlyRecords] none none))
  have second := first.act [] (.addSource "a" (.ofLists [lateRecords] none none))
  exact second.act [] (.addHook 2 ⟨0, 0⟩ { serial := 0, label := "a", edit := .panics "late" })

theorem load_stricken :
    ∃ after, runFrom (load ⟨0, 0⟩) (stricken, []) = (.error (.panic ⟨"late"⟩), after) ∧
      after.1.progress = 1 := by
  have found : stricken.startProgress.stream ⟨0, 0⟩ = .ok (scriptedStream 0 earlyRecords) := rfl
  obtain ⟨_, delivers⟩ := Script.ofLists_delivers [earlyRecords]
  have ran : ((stricken.startProgress.loader (scriptedStream 0 earlyRecords)).run
      (scriptedStream 0 earlyRecords).source []).1 =
      { outcome := .error (.panic ⟨"late"⟩), completed := 1 } :=
    Loader.run_of_delivers delivers
  rw [load_eq, readStream_of_open found rfl, ran]
  exact ⟨_, rfl, rfl⟩

/-- The struck stream is loaded no more; the other one is, as if nothing had happened. -/
theorem panic_is_contained_in_stricken :
    ∃ after, runFrom (load ⟨0, 0⟩) (stricken, []) = (.error (.panic ⟨"late"⟩), after) ∧
      after.1.progress = 1 ∧ after.1.Spoilt ⟨0, 0⟩ ∧
      (runFrom (load ⟨1, 0⟩) after).1 = .ok (pairedEntries ⟨1, 0⟩) := by
  obtain ⟨after, panicked, progress⟩ := load_stricken
  obtain ⟨⟨_, _, _, _, left, _⟩, always⟩ := panic_is_contained reachable_stricken panicked
  obtain ⟨spoilt, _, _⟩ := always [] after.1 [] .start
  refine ⟨after, panicked, progress, spoilt, ?_⟩
  have other : after.1.startProgress.stream ⟨1, 0⟩ = .ok (scriptedStream 1 lateRecords) := by
    rw [left]
    rfl
  obtain ⟨_, delivers⟩ := Script.ofLists_delivers [lateRecords]
  have loader : after.1.startProgress.loader (scriptedStream 1 lateRecords) =
      stricken.loader (scriptedStream 1 lateRecords) := by
    rw [left]
    rfl
  obtain ⟨session, host⟩ := after
  have ran : ((stricken.loader (scriptedStream 1 lateRecords)).run
      (scriptedStream 1 lateRecords).source host).1.outcome.map (·.entries) =
      .ok (pairedEntries ⟨1, 0⟩) := by
    rw [scriptedStream, Loader.run_of_delivers delivers, Loader.laneEntries_singleton,
      mergeLanes_singleton]
    rfl
  rw [load_eq, readStream_of_open other rfl, loader]
  exact ran

end Session
end KernelTrace
