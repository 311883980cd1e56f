import KernelTrace.Proofs.Alike
import KernelTrace.Proofs.Interruption

/-! What operations leave behind when they fail. All but the loads of several streams and appends
leave the session as it was, but for its progress and the places of its sources. -/

namespace KernelTrace

def Action.loads {S H K : Type} : Action S H K → Bool
  | .load _ | .loadAll | .append .. => true
  | _ => false

namespace Session

variable {S H K σ : Type} {session middle later : Session S H K} {handle : Handle} {fault : Fault}
  {host : σ} {after : Session S H K × σ}

theorem of_failed_quietly {change : Session S H K → Except Fault (Session S H K)}
    (failed : runFrom (perform.quietly change) (session, host) = (.error (.fault fault), after)) :
    change session = .error fault ∧ after = (session, host) := by
  rcases runFrom_bind_eq_error failed with refused | ⟨_, _, _, rest⟩
  · exact SessionStep.ofChange_eq_error refused
  · cases rest

theorem of_failed_answering {change : Session S H K → Except Fault (List Entry × Session S H K)}
    (failed : runFrom (perform.answering change) (session, host) = (.error (.fault fault), after)) :
    change session = .error fault ∧ after = (session, host) := by
  rcases runFrom_bind_eq_error failed with refused | ⟨_, _, _, rest⟩
  · exact SessionStep.ofAnswer_eq_error refused
  · cases rest

theorem usableSource_eq_ok {source : S} :
    session.usableSource handle = .ok source ↔
      ∃ stream, session.stream handle = .ok stream ∧ stream.poisoned = false ∧
        stream.source = source := by
  rw [usableSource]
  cases session.stream handle with
  | error fault => simp [Except.bind]
  | ok stream => simp [Except.bind, Stream.usable_eq_ok]

theorem close_of_open {stream : Stream S} (found : session.stream handle = .ok stream) :
    ∃ after, session.close handle = .ok after ∧
      ∀ other, other ≠ handle → after.stream other = session.stream other := by
  have got : session.streams.get handle = .ok stream := found
  have erased : session.streams.erase handle = .ok (stream, _) := map_eq_ok.mpr ⟨_, got, rfl⟩
  refine ⟨_, map_eq_ok.mpr ⟨_, erased, rfl⟩, ?_⟩
  intro other differ
  simp only [Session.stream, Registry.get, Registry.find?_erase_of_ne differ erased]

theorem foldlM_close {handles : List Handle} (distinct : handles.Nodup)
    (opened : ∀ handle ∈ handles, ∃ stream, session.stream handle = .ok stream) :
    ∃ after, handles.foldlM close session = .ok after := by
  induction handles generalizing session with
  | nil => exact ⟨session, rfl⟩
  | cons handle handles ih =>
      obtain ⟨absent, distinct⟩ := List.nodup_cons.mp distinct
      obtain ⟨⟨stream, found⟩, opened⟩ := List.forall_mem_cons.mp opened
      obtain ⟨middle, closed, others⟩ := close_of_open found
      -- the handles still to be closed stay open, for none of them is this one
      obtain ⟨after, rest⟩ := ih distinct fun other member => by
        rw [others other (ne_of_mem_of_not_mem member absent)]
        exact opened other member
      exact ⟨after, by rw [List.foldlM_cons, closed]; exact rest⟩

theorem Sound.handles_nodup (sound : session.Sound) : session.handles.Nodup :=
  sound.coherent.handles_nodup

theorem Sound.opened_of_mem (sound : session.Sound) (member : handle ∈ session.handles) :
    ∃ stream, session.stream handle = .ok stream := by
  obtain ⟨stream, found⟩ := sound.coherent.mem_handles.mp member
  exact ⟨stream, Registry.get_eq_ok.mpr found⟩

theorem Sound.closeAll_eq_ok (sound : session.Sound) : ∃ after, session.closeAll = .ok after :=
  foldlM_close sound.handles_nodup fun _ member => sound.opened_of_mem member

variable [RecordSource S]

/-- The same session, but for its progress and what has been read from its sources. -/
structure Intact (session later : Session S H K) : Prop where
  settings : later.settings = session.settings
  hooks : later.hooks = session.hooks
  collections : later.collections = session.collections
  handles : later.handles = session.handles
  limit : later.streams.limit = session.streams.limit
  generations : later.streams.generations = session.streams.generations
  opened : ∀ handle stream, session.stream handle = .ok stream →
    ∃ source, Used stream.source source ∧ later.stream handle = .ok { stream with source }
  closed : ∀ handle fault, session.stream handle = .error fault →
    later.stream handle = .error fault

theorem Intact.trans (first : Intact session middle) (second : Intact middle later) :
    Intact session later where
  settings := second.settings.trans first.settings
  hooks := second.hooks.trans first.hooks
  collections := second.collections.trans first.collections
  handles := second.handles.trans first.handles
  limit := second.limit.trans first.limit
  generations := second.generations.trans first.generations
  opened handle stream found := by
    obtain ⟨source, used, here⟩ := first.opened handle stream found
    obtain ⟨last, reused, there⟩ := second.opened handle _ here
    exact ⟨last, used.trans reused, there⟩
  closed handle fault missing := second.closed handle fault (first.closed handle fault missing)

theorem intact_progress (session : Session S H K) (progress : Nat) :
    Intact session { session with progress } where
  settings := rfl
  hooks := rfl
  collections := rfl
  handles := rfl
  limit := rfl
  generations := rfl
  opened _ stream found := ⟨stream.source, .unread, found⟩
  closed _ _ missing := missing

theorem Intact.refl (session : Session S H K) : Intact session session :=
  intact_progress session session.progress

theorem intact_modify {change : Stream S → Stream S}
    (keeps : ∀ stream, (change stream).handle = stream.handle)
    (rereads : ∀ stream, session.stream handle = .ok stream →
      ∃ source, Used stream.source source ∧ change stream = { stream with source }) :
    Intact session (session.modifyStream handle change) where
  settings := rfl
  hooks := rfl
  collections := rfl
  handles := Registry.handles_modify keeps
  limit := Registry.limit_modify change
  generations := Registry.generations_modify change
  opened other stream found := by
    by_cases same : other = handle
    · subst same
      obtain ⟨source, used, written⟩ := rereads stream found
      refine ⟨source, used, ?_⟩
      rw [stream_modify, found, ← written]
      rfl
    · rw [stream_modify_of_ne same]
      exact ⟨stream.source, .unread, found⟩
  closed other fault missing := by
    by_cases same : other = handle
    · subst same
      rw [stream_modify, missing]
      rfl
    · rw [stream_modify_of_ne same]
      exact missing

def Unmoved (session later : Session S H K) : Prop :=
  Intact session later ∧ later.progress = session.progress

theorem Unmoved.refl (session : Session S H K) : Unmoved session session :=
  ⟨.refl session, rfl⟩

theorem unmoved_of_moves (moves : Relation.ReflTransGen Unmoved session later) :
    Unmoved session later := by
  induction moves with
  | refl => exact .refl session
  | tail _ move ih => exact ⟨ih.1.trans move.1, move.2.trans ih.2⟩

theorem unmoved_of_recordAt (handle : Handle) (offset : UInt64) :
    Follows Unmoved id (recordAt handle offset : ReadStep S H K Record) := by
  intro session
  rw [recordAt, runFrom_mk]
  dsimp only
  split
  · exact .refl
  · rename_i source usable
    refine .single ⟨intact_modify (fun _ => rfl) ?_, rfl⟩
    intro stream found
    obtain ⟨_, again, _, rfl⟩ := usableSource_eq_ok.mp usable
    cases found.symm.trans again
    exact ⟨_, .reread .unread, rfl⟩

theorem of_failed_reading {α : Type} {step : ReadStep S H K α} (follows : Follows Unmoved id step)
    (failed : runFrom (perform.reading step) (session, host) = (.error (.fault fault), after)) :
    Unmoved session after.1 := by
  rcases runFrom_bind_eq_error failed with refused | ⟨_, _, _, rest⟩
  · have reread : ((runFrom step session).2, host) = after := congrArg Prod.snd refused
    rw [← reread]
    exact unmoved_of_moves (follows session)
  · cases rest

/-- What a load that reports this fault makes of the session: nothing, if the stream is not open or
its source is spoilt. If a read fails, the source has moved, and the records before it count. -/
inductive LoadFails (session : Session S H K) (handle : Handle) : Fault → Session S H K → Prop
  | closed {fault : Fault} :
      session.stream handle = .error fault → LoadFails session handle fault session
  | spoilt {stream : Stream S} {fault : Fault} :
      session.stream handle = .ok stream → stream.usable = .error fault →
      LoadFails session handle fault session
  | broke {stream : Stream S} {lanes : List (List Record)} {cause : SourceFault} {source : S} :
      session.stream handle = .ok stream → stream.poisoned = false →
      BreaksOff stream.source lanes cause source →
      LoadFails session handle (.source cause)
        { session.modifyStream handle fun stream => { stream with source } with
          progress := session.progress + lanes.flatten.length }

theorem LoadFails.intact (fails : LoadFails session handle fault later) :
    Intact session later := by
  cases fails with
  | closed | spoilt => exact .refl session
  | @broke stream lanes cause source found _ breaks =>
      have moved : Intact session (session.modifyStream handle fun stream =>
          { stream with source }) := by
        apply intact_modify
        · exact fun _ => rfl
        · intro other again
          cases found.symm.trans again
          have used : Used stream.source (readAll stream.source).2 := .loaded .unread
          rw [readAll_breaks_iff.mpr breaks] at used
          exact ⟨source, used, rfl⟩
      exact moved.trans (intact_progress _ _)

variable [Plugin H σ]

theorem loadFails_of_readStream
    (failed : runFrom (readStream handle) (session, host) = (.error (.fault fault), after)) :
    LoadFails session handle fault after.1 := by
  rw [readStream, runFrom_mk] at failed
  dsimp only at failed
  split at failed
  · rename_i missing
    cases failed
    exact .closed missing
  · rename_i stream found
    split at failed
    · rename_i refused
      cases failed
      exact .spoilt found refused
    · rename_i source usable
      obtain ⟨unspoilt, rfl⟩ := Stream.usable_eq_ok.mp usable
      obtain ⟨reported, settled⟩ := Prod.mk.inj failed
      have outcome := map_eq_error.mp reported
      obtain ⟨lanes, cause, rfl, breaks, completed⟩ := Loader.run_eq_fault outcome
      rw [← settled, settle_fault session handle _ outcome, completed]
      exact .broke found unspoilt breaks

theorem readStream_of_breaks {stream : Stream S} {lanes : List (List Record)} {cause : SourceFault}
    {source : S} (found : session.stream handle = .ok stream) (unspoilt : stream.poisoned = false)
    (breaks : BreaksOff stream.source lanes cause source)
    (calm : (session.loader stream).IsCalm lanes.flatten) (host : σ) :
    ∃ after, runFrom (readStream handle) (session, host) =
      (.error (.fault (.source cause)), after) := by
  have usable := Stream.usable_eq_ok.mpr ⟨unspoilt, rfl⟩
  have outcome := Loader.run_of_breaks breaks calm host
  simp only [readStream, runFrom_mk, found, usable, outcome]
  exact ⟨_, rfl⟩

theorem loadFails_of_load
    (failed : runFrom (load handle) (session, host) = (.error (.fault fault), after)) :
    LoadFails session.startProgress handle fault after.1 := by
  rw [load_eq] at failed
  exact loadFails_of_readStream failed

theorem intact_of_failed_load
    (failed : runFrom (load handle) (session, host) = (.error (.fault fault), after)) :
    Intact session after.1 :=
  .trans (intact_progress session 0) (loadFails_of_load failed).intact

variable [DecidableEq H] [DecidableEq K] [Condition K]

theorem unmoved_of_failed (sound : session.Sound) {action : Action S H K}
    (loadless : action.loads = false)
    (failed : runFrom (perform action) (session, host) = (.error (.fault fault), after)) :
    Unmoved session after.1 := by
  have refused : after = (session, host) → Unmoved session after.1 := by
    rintro rfl
    exact .refl session
  cases action with
  | load | loadAll | append => cases loadless
  | closeAll =>
      obtain ⟨later, closed⟩ := sound.closeAll_eq_ok
      cases closed.symm.trans (of_failed_quietly failed).1
  | draw eventId region =>
      rcases runFrom_bind_eq_error failed with panicked | ⟨_, _, _, rest⟩
      · have kept : session = after.1 := congrArg (·.2.1) panicked
        rw [← kept]
        exact .refl session
      · cases rest
  | refilter | refilterAll | clearFilters => exact refused (of_failed_answering failed).2
  | recordAt handle offset => exact of_failed_reading (unmoved_of_recordAt handle offset) failed
  | pidOf entry => exact of_failed_reading (follows_pidOf unmoved_of_recordAt entry) failed
  | eventIdOf entry => exact of_failed_reading (follows_eventIdOf unmoved_of_recordAt entry) failed
  | entryLine entry => exact of_failed_reading (follows_entryLine unmoved_of_recordAt entry) failed
  | _ => exact refused (of_failed_quietly failed).2

end Session

end KernelTrace
