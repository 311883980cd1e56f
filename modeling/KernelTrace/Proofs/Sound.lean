import KernelTrace.Proofs.Actions

namespace KernelTrace.Session

variable {S H K σ : Type} {session after : Session S H K}

/-- Handles find the streams that carry them, and filters leave the plugin bit alone. -/
structure Sound (session : Session S H K) : Prop where
  coherent : session.streams.Coherent
  maskClear : session.settings.filterMask &&& View.untouched = 0

theorem create_eq_ok {settings : Settings} (created : create settings = .ok session) :
    settings.validate = .ok () ∧
      session = { settings, streams := { limit := settings.maxStreams.toNat } } := by
  simp only [create] at created
  split at created
  · cases created
  · rename_i valid
    cases created
    exact ⟨valid, rfl⟩

theorem create_sound {settings : Settings} (created : create settings = .ok session) :
    session.Sound := by
  obtain ⟨valid, rfl⟩ := create_eq_ok created
  exact ⟨Registry.coherent_empty _, Settings.clear_of_validate valid⟩

theorem Sound.startProgress (sound : session.Sound) : session.startProgress.Sound :=
  ⟨sound.coherent, sound.maskClear⟩

theorem settle_streams (session : Session S H K) (handle : Handle) (source : S)
    (report : LoadReport) :
    ∃ change : Stream S → Stream S,
      (∀ stream, ∃ poisoned tasks, change stream = { stream with source, poisoned, tasks }) ∧
      (session.settle handle source report).streams = session.streams.modify handle change := by
  rcases report with ⟨outcome, completed⟩
  rcases outcome with (fault | panic) | loaded
  · exact ⟨_, fun stream => ⟨stream.poisoned, stream.tasks, rfl⟩, rfl⟩
  · exact ⟨_, fun stream => ⟨true, stream.tasks, rfl⟩, rfl⟩
  · exact ⟨_, fun stream => ⟨stream.poisoned, _, rfl⟩, rfl⟩

theorem settle_settings (session : Session S H K) (handle : Handle) (source : S)
    (report : LoadReport) : (session.settle handle source report).settings = session.settings := by
  rcases report with ⟨(fault | panic) | loaded, completed⟩ <;> rfl

theorem settle_hooks (session : Session S H K) (handle : Handle) (source : S)
    (report : LoadReport) : (session.settle handle source report).hooks = session.hooks := by
  rcases report with ⟨(fault | panic) | loaded, completed⟩ <;> rfl

theorem settle_progress (session : Session S H K) (handle : Handle) (source : S)
    (report : LoadReport) :
    (session.settle handle source report).progress = session.progress + report.completed := by
  rcases report with ⟨(fault | panic) | loaded, completed⟩ <;> rfl

theorem settle_loaded (session : Session S H K) (handle : Handle) (source : S)
    {report : LoadReport} {loaded : LoadResult} (outcome : report.outcome = .ok loaded) :
    session.settle handle source report =
      { session.modifyStream handle fun stream =>
          { stream with source, tasks := stream.tasks.union loaded.tasks } with
        collections := session.collections.resetStream handle
        progress := session.progress + report.completed } := by
  rw [settle, outcome]
  rfl

theorem settle_ok (session : Session S H K) (handle : Handle) (source : S)
    {report : LoadReport} {loaded : LoadResult}
    (outcome : report.outcome = .ok loaded) :
    (session.settle handle source report).streams =
      (session.modifyStream handle fun stream =>
        { stream with source, tasks := stream.tasks.union loaded.tasks }).streams := by
  rw [settle_loaded session handle source outcome]

theorem settle_fault (session : Session S H K) (handle : Handle) (source : S)
    {report : LoadReport} {fault : Fault}
    (outcome : report.outcome = .error (.fault fault)) :
    session.settle handle source report =
      { session.modifyStream handle fun stream => { stream with source } with
        progress := session.progress + report.completed } := by
  rw [settle, outcome]
  rfl

theorem settle_thins (session : Session S H K) (handle : Handle) (source : S)
    (report : LoadReport) :
    session.collections.Thins (session.settle handle source report).collections := by
  rcases report with ⟨(fault | panic) | loaded, completed⟩
  · exact .refl session.collections
  · exact .refl session.collections
  · exact CollectionStore.thins_resetStream session.collections handle

variable [RecordSource S] [Plugin H σ] [DecidableEq K] [Condition K]

theorem Moves.sound {action : Action S H K} (move : Moves action session after)
    (sound : session.Sound) : after.Sound := by
  cases move with
  | masked clear => exact ⟨sound.coherent, clear⟩
  | opened inserted => exact ⟨sound.coherent.insert inserted, sound.maskClear⟩
  | closed _ closed =>
      obtain ⟨⟨stream, streams⟩, erased, rfl⟩ := map_eq_ok.mp closed
      exact ⟨sound.coherent.erase erased, sound.maskClear⟩
  | tuned retunes =>
      refine ⟨sound.coherent.modify fun stream => ?_, sound.maskClear⟩
      obtain ⟨filters, clock, same⟩ := retunes stream
      rw [same]
  | unfiltered => exact ⟨sound.coherent.mapStreams fun _ => rfl, sound.maskClear⟩
  | hooked | unhooked | thinned | built | asked | started => exact ⟨sound.coherent, sound.maskClear⟩
  | settled _ _ =>
      obtain ⟨change, writes, same⟩ := settle_streams session _ _ _
      refine ⟨?_, ?_⟩
      · rw [same]
        apply sound.coherent.modify
        intro stream
        obtain ⟨poisoned, tasks, same⟩ := writes stream
        rw [same]
      · rw [settle_settings]
        exact sound.maskClear
  | reread => exact ⟨sound.coherent.modify fun _ => rfl, sound.maskClear⟩

theorem sound_of_moves {action : Action S H K}
    (moves : Relation.ReflTransGen (Moves action) session after) (sound : session.Sound) :
    after.Sound := by
  induction moves with
  | refl => exact sound
  | tail _ move ih => exact move.sound ih

theorem sound_of_step {α : Type} {step : SessionStep S H K σ α} {host : σ}
    {state : Session S H K × σ} {outcome : Except Failure α} (action : Action S H K)
    (follows : Follows (Moves action) Prod.fst step) (sound : session.Sound)
    (ran : runFrom step (session, host) = (outcome, state)) : state.1.Sound := by
  have moves := follows (session, host)
  rw [ran] at moves
  exact sound_of_moves moves sound

theorem Reachable.sound [DecidableEq H] (reachable : Reachable session) : session.Sound := by
  induction reachable with
  | created created => exact create_sound created
  | acted action _ ih => exact sound_of_moves (follows_perform action _) ih

end KernelTrace.Session
