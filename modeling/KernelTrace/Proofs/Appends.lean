import KernelTrace.Proofs.PartialLoads

/-! Appends that fail. The clock is set before the load, and a load that fails leaves it set. -/

namespace KernelTrace.Session

variable {S H K σ : Type} {session later : Session S H K} {handle : Handle} {fault : Fault}
  {clock : Option Clock} {host : σ} {after : Session S H K × σ} {prior : List Entry}

def clocked (session : Session S H K) (handle : Handle) : Option Clock → Session S H K
  | none => session
  | some clock => session.modifyStream handle fun stream => { stream with clock := some clock }

theorem stream_clocked {stream : Stream S} (found : session.stream handle = .ok stream)
    (clock : Clock) :
    (session.clocked handle (some clock)).stream handle =
      .ok { stream with clock := some clock } := by
  rw [clocked, stream_modify, found]
  rfl

theorem hooks_clocked : (session.clocked handle clock).hooks = session.hooks := by
  cases clock <;> rfl

theorem source_of_clocked {stream : Stream S}
    (found : (session.clocked handle clock).stream handle = .ok stream) :
    ∃ before, session.stream handle = .ok before ∧ stream.source = before.source := by
  cases clock with
  | none => exact ⟨stream, found, rfl⟩
  | some clock =>
      rw [clocked, stream_modify] at found
      obtain ⟨before, present, rfl⟩ := map_eq_ok.mp found
      exact ⟨before, present, rfl⟩

theorem clocked_eq_self_iff :
    session.clocked handle clock = session ↔
      ∀ stream set, session.stream handle = .ok stream → clock = some set →
        stream.clock = some set := by
  constructor
  · rintro same stream set found rfl
    have there := stream_clocked found set
    rw [same, found] at there
    exact congrArg Stream.clock (Except.ok.inj there)
  · intro same
    cases clock with
    | none => rfl
    | some clock =>
        cases found : session.stream handle with
        | error fault => exact modifyStream_of_closed found
        | ok stream =>
            apply modifyStream_of_same found
            rw [← same stream clock found rfl]

variable [RecordSource S]

variable [Plugin H σ]

theorem intact_of_failed_unclocked
    (failed : runFrom (append prior handle none) (session, host) =
      (.error (.fault fault), after)) : Intact session after.1 := by
  change runFrom (load handle >>= _) (session, host) = _ at failed
  rcases runFrom_bind_eq_error failed with unloaded | ⟨_, _, _, rest⟩
  · exact intact_of_failed_load unloaded
  · cases rest

theorem intact_of_failed_append
    (failed : runFrom (append prior handle clock) (session, host) =
      (.error (.fault fault), after)) :
    Intact (session.clocked handle clock) after.1 := by
  cases clock with
  | none => exact intact_of_failed_unclocked failed
  | some clock =>
      rcases runFrom_bind_eq_error failed with refused | ⟨_, _, set, continued⟩
      · -- a clock that cannot be set is one of a stream that is not open
        obtain ⟨missing, rfl⟩ := SessionStep.ofChange_eq_error refused
        rw [clocked, modifyStream_of_closed (map_eq_error.mp missing)]
        exact .refl session
      · -- from here on it is an append without a clock, to the session that has it
        obtain ⟨ready, changed, rfl⟩ := SessionStep.ofChange_eq_ok set
        obtain ⟨stream, _, rfl⟩ := map_eq_ok.mp changed
        exact intact_of_failed_unclocked continued

theorem load_of_intact {entries others : List Entry} {other : σ}
    (functions : ∀ hook ∈ session.hooks.hooks, Plugin.IsFunction hook.plugin)
    (repeats : ∀ stream, session.stream handle = .ok stream → Repeats stream.source)
    (intact : Intact session later)
    (first : (runFrom (load handle) (session, host)).1 = .ok entries)
    (second : (runFrom (load handle) (later, other)).1 = .ok others) : others = entries := by
  obtain ⟨stream, loaded, found, _, outcome, rfl⟩ := gives_of_load first
  obtain ⟨again, reloaded, there, _, reoutcome, rfl⟩ := gives_of_load second
  obtain ⟨source, used, moved⟩ := intact.opened handle stream found
  rw [moved] at there
  cases there
  have loader : later.loader { stream with source } = session.loader stream := by
    simp only [Session.loader, intact.hooks, intact.settings]
  rw [loader] at reoutcome
  have read := congrArg Prod.fst (readAll_eq_iff.mpr (Loader.delivers_of_run_ok outcome))
  have reread := congrArg Prod.fst (readAll_eq_iff.mpr (Loader.delivers_of_run_ok reoutcome))
  have lanes := repeats stream found source stream.source _ _ used .unread reread read
  have same : (readAll source).1 = (readAll stream.source).1 := by
    calc (readAll source).1
      _ = ⟨(readAll source).1.lanes, none⟩ := reread
      _ = ⟨(readAll stream.source).1.lanes, none⟩ := by rw [lanes]
      _ = (readAll stream.source).1 := read.symm
  rw [Loader.run_is_function functions same host other, outcome] at reoutcome
  cases reoutcome
  rfl

/-- An append that fails leaves the session intact but for the clock it was to set. So all of it is
intact exactly where no clock is given, or the stream is not open or has that clock already. A later
load gives what it would have given with the clock set and no append. -/
theorem failed_append_leaves_clock
    (failed : runFrom (append prior handle clock) (session, host) =
      (.error (.fault fault), after)) :
    Intact (session.clocked handle clock) after.1 ∧
      (Intact session after.1 ↔ session.clocked handle clock = session) ∧
      (session.clocked handle clock = session ↔
        ∀ stream set, session.stream handle = .ok stream → clock = some set →
          stream.clock = some set) ∧
      ∀ (other another : σ) (entries others : List Entry),
        (∀ hook ∈ session.hooks.hooks, Plugin.IsFunction hook.plugin) →
        (∀ stream, session.stream handle = .ok stream → Repeats stream.source) →
        (runFrom (load handle) (session.clocked handle clock, other)).1 = .ok entries →
        (runFrom (load handle) (after.1, another)).1 = .ok others → others = entries := by
  have intact := intact_of_failed_append failed
  refine ⟨intact, ⟨?_, ?_⟩, clocked_eq_self_iff, ?_⟩
  · intro whole
    rw [clocked_eq_self_iff]
    rintro stream set found rfl
    obtain ⟨_, _, there⟩ := whole.opened handle stream found
    obtain ⟨_, _, again⟩ := intact.opened handle _ (stream_clocked found set)
    exact congrArg Stream.clock (Except.ok.inj (there.symm.trans again))
  · intro same
    rwa [same] at intact
  · intro other another entries others functions repeats first second
    refine load_of_intact ?_ ?_ intact first second
    · rwa [hooks_clocked]
    · intro stream found
      obtain ⟨before, present, same⟩ := source_of_clocked found
      rw [same]
      exact repeats before present

theorem append_brokenSession :
    ∃ after, runFrom (append [] ⟨1, 0⟩ (some (.offset 5))) (brokenSession, []) =
      (.error (.fault (.source (.noRecordAt 9))), after) := by
  have found : (brokenSession.clocked ⟨1, 0⟩ (some (.offset 5))).startProgress.stream ⟨1, 0⟩ =
      .ok { brokenStream with clock := some (.offset 5) } := rfl
  obtain ⟨after, failed⟩ := load_brokenStream rfl found []
  rw [← load_eq] at failed
  have set : runFrom (SessionStep.ofChange fun session => session.setClock ⟨1, 0⟩ (.offset 5))
      (brokenSession, ([] : List JournalLine)) =
        (.ok (), brokenSession.clocked ⟨1, 0⟩ (some (.offset 5)), []) := rfl
  exact ⟨after, (runFrom_bind_ok set).trans (runFrom_bind_error failed)⟩

theorem failed_append_leaves_clock_of_brokenSession :
    ∃ after, runFrom (append [] ⟨1, 0⟩ (some (.offset 5))) (brokenSession, []) =
        (.error (.fault (.source (.noRecordAt 9))), after) ∧
      Intact (brokenSession.clocked ⟨1, 0⟩ (some (.offset 5))) after.1 ∧
      ¬ Intact brokenSession after.1 := by
  obtain ⟨after, failed⟩ := append_brokenSession
  obtain ⟨intact, whole, unclocked, _⟩ := failed_append_leaves_clock failed
  refine ⟨after, failed, intact, ?_⟩
  rw [whole, unclocked]
  intro same
  cases same brokenStream (.offset 5) rfl rfl

theorem failed_append_changes_session :
    ¬ ∀ (session : Session Script JournalPlugin ExtraCondition) (prior : List Entry)
      (handle : Handle) (clock : Option Clock) (host : List JournalLine) (fault : Fault)
      (after : Session Script JournalPlugin ExtraCondition × List JournalLine),
      Reachable session →
      runFrom (append prior handle clock) (session, host) = (.error (.fault fault), after) →
      ∀ other stream, session.stream other = .ok stream →
        ∃ left, after.1.stream other = .ok left ∧ left.clock = stream.clock := by
  intro keeps
  obtain ⟨after, failed⟩ := append_brokenSession
  obtain ⟨left, there, same⟩ :=
    keeps brokenSession [] _ _ _ _ _ reachable_brokenSession failed ⟨1, 0⟩ brokenStream rfl
  have found : brokenSession.stream ⟨1, 0⟩ = .ok brokenStream := rfl
  obtain ⟨_, _, again⟩ :=
    (intact_of_failed_append failed).opened ⟨1, 0⟩ _ (stream_clocked found (.offset 5))
  rw [there] at again
  cases again
  cases same

end KernelTrace.Session
