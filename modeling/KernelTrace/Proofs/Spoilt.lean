import KernelTrace.Proofs.Isolation
import KernelTrace.Proofs.Refusals
import KernelTrace.Proofs.Swaps

namespace KernelTrace

variable {S H K σ : Type}

def Fault.spoilt (handle : Handle) : Fault := .source (.corrupt (.poisoned handle))

namespace Session

variable {session after later : Session S H K} {handle : Handle}

def Struck (session : Session S H K) (handle : Handle) : Prop :=
  ∃ stream, session.stream handle = .ok stream ∧ stream.poisoned = true

theorem struck_of_stream (struck : session.Struck handle)
    (same : after.stream handle = session.stream handle) : after.Struck handle := by
  obtain ⟨stream, found, poisoned⟩ := struck
  exact ⟨stream, same.trans found, poisoned⟩

theorem struck_of_modify {change : Stream S → Stream S} {other : Handle}
    (keeps : ∀ stream, (change stream).poisoned = stream.poisoned)
    (struck : session.Struck handle) : (session.modifyStream other change).Struck handle := by
  obtain ⟨stream, found, poisoned⟩ := struck
  by_cases same : handle = other
  · subst same
    refine ⟨change stream, ?_, (keeps stream).trans poisoned⟩
    rw [stream_modify, found]
    rfl
  · exact ⟨stream, (stream_modify_of_ne same).trans found, poisoned⟩

theorem usableSource_of_struck (sound : session.Sound) (struck : session.Struck handle) :
    session.usableSource handle = .error (.spoilt handle) := by
  obtain ⟨stream, found, poisoned⟩ := struck
  have named := sound.handle_of_stream found
  rw [usableSource, found]
  change stream.usable = _
  rw [Stream.usable, if_pos poisoned, named]
  rfl

variable [RecordSource S] [Plugin H σ]

theorem append_of_struck (sound : session.Sound) (struck : session.Struck handle)
    (prior : List Entry) (clock : Option Clock) (host : σ) :
    runFrom (append prior handle clock) (session, host) =
      (.error (.fault (.spoilt handle)), (session.clocked handle clock).startProgress, host) := by
  cases clock with
  | none => exact runFrom_bind_error (load_of_unusable (usableSource_of_struck sound struck) host)
  | some clock =>
      obtain ⟨stream, found, _⟩ := id struck
      have set : session.setClock handle clock = .ok (session.clocked handle (some clock)) := by
        rw [setClock, updateStream, found]
        rfl
      have clocked : runFrom
          (SessionStep.ofChange fun session : Session S H K => session.setClock handle clock)
          (session, host) = (.ok (), session.clocked handle (some clock), host) := by
        rw [SessionStep.ofChange, runFrom_mk]
        simp only [set]
      have soundly : (session.clocked handle (some clock)).Sound :=
        ⟨sound.coherent.modify fun _ => rfl, sound.maskClear⟩
      have unusable := usableSource_of_struck soundly (struck_of_modify (fun _ => rfl) struck)
      exact (runFrom_bind_ok clocked).trans (runFrom_bind_error (load_of_unusable unusable host))

variable [DecidableEq K] [Condition K] {action : Action S H K}

/-- Nothing but closing the stream undoes what a panic did to it. -/
theorem Moves.struck (move : Moves action session after) (sound : session.Sound)
    (spares : action.Spares handle) (struck : session.Struck handle) : after.Struck handle := by
  have unusable := usableSource_of_struck sound struck
  cases move with
  | masked | hooked | unhooked | thinned | built | asked | started =>
      exact struck_of_stream struck rfl
  | @opened _ _ fresh _ inserted =>
      obtain ⟨stream, found, poisoned⟩ := struck
      have present := Registry.get_eq_ok.mp found
      have differ : handle ≠ fresh := by
        rintro rfl
        rw [Registry.find?_before_insert inserted] at present
        cases present
      have kept := (Registry.get_insert inserted handle).trans (if_neg differ)
      exact ⟨stream, kept.trans found, poisoned⟩
  | @closed _ other closes closed =>
      have differ : handle ≠ other := by
        rintro rfl
        exact closes.elim spares.1 spares.2
      exact struck_of_stream struck ((sound.closesOff closed).others handle differ)
  | tuned retunes =>
      apply struck_of_modify (fun stream => ?_) struck
      obtain ⟨filters, clock, same⟩ := retunes stream
      rw [same]
  | unfiltered =>
      obtain ⟨stream, found, poisoned⟩ := struck
      refine ⟨{ stream with filters := {} }, Registry.get_eq_ok.mpr ?_, poisoned⟩
      rw [Registry.find?_mapStreams, Registry.get_eq_ok.mp found]
      rfl
  | @settled other _ _ _ opened usable =>
      have differ : handle ≠ other := by
        rintro rfl
        rw [usableSource, opened] at unusable
        cases usable.symm.trans unusable
      exact struck_of_stream struck ((others_of_settle session _ _).1 handle differ)
  | reread usable => exact struck_of_modify (fun _ => rfl) struck

theorem struck_of_moves (moves : Relation.ReflTransGen (Moves action) session after)
    (sound : session.Sound) (spares : action.Spares handle) (struck : session.Struck handle) :
    after.Struck handle := by
  induction moves with
  | refl => exact struck
  | tail moves move ih => exact move.struck (sound_of_moves moves sound) spares ih

theorem Tended.struck [DecidableEq H] {list kept : List Entry}
    (tended : Tended handle session list later kept) (reachable : Reachable session)
    (struck : session.Struck handle) : later.Struck handle :=
  tended.keeps (fun _ _ _ sound spares moves => struck_of_moves moves sound spares) reachable struck

theorem loadAll_of_struck (sound : session.Sound) (struck : session.Struck handle)
    {earlier rest : List Handle} (handles : session.handles = earlier ++ handle :: rest)
    (host : σ) :
    runFrom loadAll (session, host) =
      runFrom (do
        let _ ← earlier.foldlM mergeNext []
        throw (.fault (.spoilt handle)) : SessionStep S H K σ (List Entry))
        (session.startProgress, host) := by
  have moves : Follows (Moves .loadAll) Prod.fst
      (earlier.foldlM mergeNext [] : SessionStep S H K σ (List Entry)) := by
    apply follows_foldlM
    intro merged other _
    exact follows_bind (follows_readStream other) fun entries => follows_pure _
  rcases folded : runFrom (earlier.foldlM mergeNext []) (session.startProgress, host) with
    ⟨failure | merged, after, last⟩
  · rw [runFrom_bind_error folded, loadAll_eq_error, handles, List.foldlM_append]
    exact runFrom_bind_error folded
  · have reached := moves (session.startProgress, host)
    rw [folded] at reached
    have spares : (Action.loadAll : Action S H K).Spares handle := by
      constructor <;> rintro ⟨⟩
    have soundly := sound_of_moves reached sound.startProgress
    have struckStill := struck_of_moves reached sound.startProgress spares
      (struck_of_stream struck rfl)
    have refused := readStream_of_unusable (usableSource_of_struck soundly struckStill) last
    have thrown : runFrom (throw (.fault (.spoilt handle)) : SessionStep S H K σ (List Entry))
        (after, last) = (.error (.fault (.spoilt handle)), after, last) := rfl
    rw [runFrom_bind_ok folded, thrown, loadAll_eq_error, handles, List.foldlM_append,
      runFrom_bind_ok folded, List.foldlM_cons]
    exact runFrom_bind_error (runFrom_bind_error refused)

/-- Every call that needs the source of this stream is answered that a panic has spoilt it, and does
nothing else but what it does before it comes to the source. -/
structure Spoilt (session : Session S H K) (handle : Handle) : Prop where
  eventName : ∀ eventId, session.eventName handle eventId = .error (.spoilt handle)
  taskName : ∀ pid, session.taskName handle pid = .error (.spoilt handle)
  recordAt : ∀ offset, runFrom (recordAt handle offset) session = (.error (.spoilt handle), session)
  pidOf : ∀ entry : Entry, entry.stream = handle → entry.isUntouched = false →
    runFrom (pidOf entry) session = (.error (.spoilt handle), session)
  eventIdOf : ∀ entry : Entry, entry.stream = handle → entry.isUntouched = false →
    runFrom (eventIdOf entry) session = (.error (.spoilt handle), session)
  entryLine : ∀ entry : Entry, entry.stream = handle →
    runFrom (entryLine entry) session = (.error (.spoilt handle), session)
  load : ∀ host : σ, runFrom (load handle) (session, host) =
    (.error (.fault (.spoilt handle)), { session with progress := 0 }, host)
  append : ∀ prior clock (host : σ), runFrom (append prior handle clock) (session, host) =
    (.error (.fault (.spoilt handle)), { session.clocked handle clock with progress := 0 }, host)
  loadAll : ∃ earlier rest, session.handles = earlier ++ handle :: rest ∧ handle ∉ earlier ∧
    ∀ host : σ, runFrom loadAll (session, host) =
      runFrom (do
        let _ ← earlier.foldlM mergeNext []
        throw (.fault (.spoilt handle)) : SessionStep S H K σ (List Entry))
        ({ session with progress := 0 }, host)

theorem spoilt_of_struck (sound : session.Sound) (struck : session.Struck handle) :
    session.Spoilt handle := by
  have unusable := usableSource_of_struck sound struck
  have opened : handle ∈ session.handles := by
    obtain ⟨stream, found, _⟩ := struck
    exact sound.coherent.mem_handles.mpr ⟨stream, Registry.get_eq_ok.mp found⟩
  obtain ⟨earlier, rest, handles⟩ := List.append_of_mem opened
  have distinct := sound.handles_nodup
  rw [handles, List.nodup_append] at distinct
  have absent : handle ∉ earlier := fun member =>
    distinct.2.2 handle member handle List.mem_cons_self rfl
  exact {
    eventName := fun _ => map_eq_error.mpr unusable
    taskName := fun _ => map_eq_error.mpr unusable
    recordAt := fun _ => recordAt_of_unusable unusable
    pidOf := by
      rintro entry rfl touched
      exact pidOf_of_unusable unusable touched
    eventIdOf := by
      rintro entry rfl touched
      exact eventIdOf_of_unusable unusable touched
    entryLine := by
      rintro entry rfl
      exact entryLine_of_unusable unusable
    load := load_of_unusable unusable
    append := append_of_struck sound struck
    loadAll := ⟨earlier, rest, handles, absent, loadAll_of_struck sound struck handles⟩ }

end Session
end KernelTrace
