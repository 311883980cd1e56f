import KernelTrace.Proofs.Collections
import KernelTrace.Proofs.Refilter
import KernelTrace.Proofs.Registry
import KernelTrace.Session.Collections
import KernelTrace.Session.Load
import KernelTrace.Session.Reread

namespace KernelTrace

variable {S H K σ : Type}

namespace SessionStep

def ofAnswer {α : Type} (change : Session S H K → Except Fault (α × Session S H K)) :
    SessionStep S H K σ α :=
  ExceptT.mk fun (session, host) =>
    match change session with
    | .error fault => (.error (.fault fault), session, host)
    | .ok (answer, session) => (.ok answer, session, host)

def ofRead {α : Type} (step : ReadStep S H K α) : SessionStep S H K σ α :=
  ExceptT.mk fun (session, host) =>
    let (outcome, session) := runFrom step session
    (outcome.mapError .fault, session, host)

def ofHosted {α : Type} (step : Session S H K → Hosted σ α) : SessionStep S H K σ α :=
  ExceptT.mk fun (session, host) =>
    let (outcome, host) := runFrom (step session) host
    (outcome.mapError .panic, session, host)

variable {session : Session S H K} {host : σ} {after : Session S H K × σ} {fault : Fault}

theorem ofChange_eq_ok {change : Session S H K → Except Fault (Session S H K)}
    (ran : runFrom (ofChange change) (session, host) = (.ok (), after)) :
    ∃ later, change session = .ok later ∧ after = (later, host) := by
  rw [ofChange, runFrom_mk] at ran
  dsimp only at ran
  split at ran
  · cases ran
  · rename_i later changed
    cases ran
    exact ⟨later, changed, rfl⟩

theorem ofChange_eq_error {change : Session S H K → Except Fault (Session S H K)}
    (failed : runFrom (ofChange change) (session, host) = (.error (.fault fault), after)) :
    change session = .error fault ∧ after = (session, host) := by
  rw [ofChange, runFrom_mk] at failed
  dsimp only at failed
  split at failed
  · rename_i cause changed
    cases failed
    exact ⟨changed, rfl⟩
  · cases failed

theorem ofAnswer_eq_ok {α : Type} {answer : α}
    {change : Session S H K → Except Fault (α × Session S H K)}
    (ran : runFrom (ofAnswer change) (session, host) = (.ok answer, after)) :
    ∃ later, change session = .ok (answer, later) ∧ after = (later, host) := by
  rw [ofAnswer, runFrom_mk] at ran
  dsimp only at ran
  split at ran
  · cases ran
  · rename_i given later changed
    cases ran
    exact ⟨later, changed, rfl⟩

theorem ofAnswer_eq_error {α : Type} {change : Session S H K → Except Fault (α × Session S H K)}
    (failed : runFrom (ofAnswer change) (session, host) = (.error (.fault fault), after)) :
    change session = .error fault ∧ after = (session, host) := by
  rw [ofAnswer, runFrom_mk] at failed
  dsimp only at failed
  split at failed
  · rename_i cause changed
    cases failed
    exact ⟨changed, rfl⟩
  · cases failed

end SessionStep

theorem Settings.clear_of_validate {settings : Settings} (valid : settings.validate = .ok ()) :
    settings.filterMask &&& View.untouched = 0 := by
  unfold Settings.validate at valid
  split at valid
  · cases valid
  · rename_i clear
    exact not_not.mp clear

theorem Session.setFilterMask_eq_ok {session after : Session S H K} {filterMask : UInt8}
    (masked : session.setFilterMask filterMask = .ok after) :
    filterMask &&& View.untouched = 0 ∧
      after = { session with settings := { session.settings with filterMask } } := by
  simp only [Session.setFilterMask] at masked
  split at masked
  · cases masked
  · rename_i valid
    cases masked
    exact ⟨Settings.clear_of_validate valid, rfl⟩

/-- The operations of a session that can change it or its plugins, with their arguments. -/
inductive Action (S H K : Type)
  | setFilterMask (filterMask : UInt8)
  | openTrace (path : String) (opened : Except SourceFault S)
  | addSource (name : String) (source : S)
  | close (handle : Handle)
  | closeAll
  | addFilter (handle : Handle) (rule : IdRule)
  | clearFilter (handle : Handle) (subject : Subject) (side : Side)
  | setContentTest (handle : Handle) (test : ContentTest)
  | clearContentTest (handle : Handle)
  | setClock (handle : Handle) (clock : Clock)
  | clearClock (handle : Handle)
  | addHook (eventId : Int32) (handle : Handle) (plugin : H)
  | removeHook (eventId : Int32) (handle : Handle) (plugin : H)
  | draw (eventId : Int32) (region : Region)
  | load (handle : Handle)
  | loadAll
  | append (prior : List Entry) (handle : Handle) (clock : Option Clock)
  | refilter (handle : Handle) (entries : List Entry)
  | refilterAll (entries : List Entry)
  | clearFilters (entries : List Entry)
  | recordAt (handle : Handle) (offset : UInt64)
  | pidOf (entry : Entry)
  | eventIdOf (entry : Entry)
  | entryLine (entry : Entry)
  | addCollection (key : CollectionSpec K) (entries : List Entry)
  | removeCollection (key : CollectionSpec K)
  | resetCollection (key : CollectionSpec K)
  | dropDense
  | firstFrom (key : CollectionSpec K) (entries : List Entry) (window : Window)
  | lastUpTo (key : CollectionSpec K) (entries : List Entry) (window : Window)

namespace Session

variable [RecordSource S] [Plugin H σ] [DecidableEq H] [DecidableEq K] [Condition K]

/-- Performs the action. The answer is the entry list of the actions that give one. -/
def perform : Action S H K → SessionStep S H K σ (Option (List Entry))
  | .setFilterMask filterMask => quietly (·.setFilterMask filterMask)
  | .openTrace path opened => quietly fun session => (session.openTrace path opened).map (·.2)
  | .addSource name source => quietly fun session => (session.addSource name source).map (·.2)
  | .close handle => quietly (·.close handle)
  | .closeAll => quietly closeAll
  | .addFilter handle rule => quietly (·.addFilter handle rule)
  | .clearFilter handle subject side => quietly (·.clearFilter handle subject side)
  | .setContentTest handle test => quietly (·.setContentTest handle test)
  | .clearContentTest handle => quietly (·.clearContentTest handle)
  | .setClock handle clock => quietly (·.setClock handle clock)
  | .clearClock handle => quietly (·.clearClock handle)
  | .addHook eventId handle plugin => quietly (·.addHook eventId handle plugin)
  | .removeHook eventId handle plugin =>
    quietly fun session => .ok (session.removeHook eventId handle plugin).2
  | .draw eventId region => do
    let _ ← SessionStep.ofHosted fun session => session.draw eventId region
    pure none
  | .load handle => do pure (some (← load handle))
  | .loadAll => do pure (some (← loadAll))
  | .append prior handle clock => do pure (some (← append prior handle clock))
  | .refilter handle entries => answering (·.refilter handle entries)
  | .refilterAll entries => answering (·.refilterAll entries)
  | .clearFilters entries => answering fun session => .ok (session.clearFilters entries)
  | .recordAt handle offset => reading (recordAt handle offset)
  | .pidOf entry => reading (pidOf entry)
  | .eventIdOf entry => reading (eventIdOf entry)
  | .entryLine entry => reading (entryLine entry)
  | .addCollection key entries => quietly (·.addCollection key entries)
  | .removeCollection key => quietly (·.removeCollection key)
  | .resetCollection key => quietly (·.resetCollection key)
  | .dropDense => quietly fun session => .ok session.dropDense.2
  | .firstFrom key entries window =>
    quietly fun session => (session.firstFrom key entries window).map (·.2)
  | .lastUpTo key entries window =>
    quietly fun session => (session.lastUpTo key entries window).map (·.2)
where
  quietly (change : Session S H K → Except Fault (Session S H K)) :
      SessionStep S H K σ (Option (List Entry)) := do
    SessionStep.ofChange change
    pure none
  answering (change : Session S H K → Except Fault (List Entry × Session S H K)) :
      SessionStep S H K σ (Option (List Entry)) := do
    pure (some (← SessionStep.ofAnswer change))
  reading {α : Type} (step : ReadStep S H K α) : SessionStep S H K σ (Option (List Entry)) := do
    let _ ← SessionStep.ofRead step
    pure none

/-- What callers can make of a new session, whatever state the plugins are in at each action. -/
inductive Reachable : Session S H K → Prop
  | created {settings : Settings} {session : Session S H K} :
      Session.create settings = .ok session → Reachable session
  | acted {session : Session S H K} {host : σ} (action : Action S H K) :
      Reachable session → Reachable (runFrom (perform action) (session, host)).2.1

theorem Reachable.act {session : Session S H K} (reachable : Reachable session) (host : σ)
    (action : Action S H K) : Reachable (runFrom (perform action) (session, host)).2.1 :=
  .acted action reachable

theorem Reachable.start (S H K : Type) [RecordSource S] [Plugin H σ] [DecidableEq H]
    [DecidableEq K] [Condition K] :
    Reachable ({ settings := {}, streams := { limit := 127 } } : Session S H K) :=
  .created (show create {} = _ from rfl)

end Session

namespace Session

variable {before state : Session S H K × σ} {answer : Option (List Entry)} {list : List Entry}

theorem quietly_answer {change : Session S H K → Except Fault (Session S H K)}
    (ran : runFrom (perform.quietly change) before = (.ok answer, state)) : answer = none := by
  obtain ⟨_, _, _, rest⟩ := runFrom_bind_eq_ok ran
  cases rest
  rfl

theorem reading_answer {α : Type} {step : ReadStep S H K α}
    (ran : runFrom (perform.reading step) before = (.ok answer, state)) : answer = none := by
  obtain ⟨_, _, _, rest⟩ := runFrom_bind_eq_ok ran
  cases rest
  rfl

theorem answering_answer {change : Session S H K → Except Fault (List Entry × Session S H K)}
    (ran : runFrom (perform.answering change) before = (.ok (some list), state)) :
    change before.1 = .ok (list, state.1) ∧ state.2 = before.2 := by
  obtain ⟨entries, middle, answered, rest⟩ := runFrom_bind_eq_ok ran
  cases rest
  obtain ⟨later, changed, same⟩ := SessionStep.ofAnswer_eq_ok answered
  rw [same]
  exact ⟨changed, rfl⟩

section

variable [RecordSource S] {move : Session S H K → Session S H K → Prop}
  (rereads : ∀ handle offset, Follows move id (recordAt handle offset : ReadStep S H K Record))

include rereads

theorem follows_pidOf (entry : Entry) : Follows move id (pidOf entry : ReadStep S H K Int32) := by
  unfold pidOf
  split
  · exact follows_pure entry.pid
  · exact follows_bind (rereads _ _) fun record => follows_pure record.pid

theorem follows_eventIdOf (entry : Entry) :
    Follows move id (eventIdOf entry : ReadStep S H K Int32) := by
  unfold eventIdOf
  split
  · exact follows_pure entry.eventId
  · exact follows_bind (rereads _ _) fun record => follows_pure record.eventId

theorem follows_entryLine (entry : Entry) :
    Follows move id (entryLine entry : ReadStep S H K String) := by
  refine follows_bind (fun _ => .refl) fun task => ?_
  refine follows_bind ?_ fun _ => follows_pure _
  unfold describe
  split
  · exact follows_pure _
  · refine follows_bind (rereads _ _) fun record => ?_
    exact follows_bind (fun _ => .refl) fun source => follows_pure _

end

variable [RecordSource S] [Plugin H σ] [DecidableEq K] [Condition K]

inductive Moves (action : Action S H K) : Session S H K → Session S H K → Prop
  | masked {session : Session S H K} {filterMask : UInt8} :
      filterMask &&& View.untouched = 0 →
      Moves action session
        { session with settings := { session.settings with filterMask := filterMask } }
  | opened {session : Session S H K} {name : String} {source : S} {handle : Handle}
      {streams : Registry S} :
      session.streams.insert name source = .ok (handle, streams) →
      Moves action session { session with streams := streams }
  | closed {session after : Session S H K} {handle : Handle} :
      action = .close handle ∨ action = .closeAll → session.close handle = .ok after →
      Moves action session after
  | tuned {session : Session S H K} {handle : Handle} {change : Stream S → Stream S} :
      (∀ stream, ∃ filters clock, change stream = { stream with filters, clock }) →
      Moves action session (session.modifyStream handle change)
  | unfiltered {session : Session S H K} :
      Moves action session
        { session with
          streams := session.streams.mapStreams fun stream => { stream with filters := {} } }
  | hooked {session : Session S H K} {stream : Stream S} {eventId : Int32} {handle : Handle}
      {plugin : H} :
      action = .addHook eventId handle plugin → session.stream handle = .ok stream →
      Moves action session { session with hooks := session.hooks.add eventId handle plugin }
  | unhooked {session : Session S H K} {hooks : HookTable H} :
      hooks.hooks.Sublist session.hooks.hooks → Moves action session { session with hooks := hooks }
  | thinned {session : Session S H K} {collections : CollectionStore K} :
      session.collections.Thins collections →
      Moves action session { session with collections := collections }
  | built {session : Session S H K} {stream : Stream S} {key : CollectionSpec K}
      {entries : List Entry} :
      action = .addCollection key entries → session.stream key.stream = .ok stream →
      Moves action session { session with collections := session.collections.add key entries }
  | asked {session : Session S H K} {key : CollectionSpec K} {entries : List Entry}
      {window : Window} {collection fresh : Collection K} :
      action = .firstFrom key entries window ∨ action = .lastUpTo key entries window →
      session.collections.find? key = some collection → collection.refresh entries = .ok fresh →
      Moves action session { session with collections := session.collections.put fresh }
  | started {session : Session S H K} : Moves action session session.startProgress
  | settled {session : Session S H K} {handle : Handle} {stream : Stream S} {source : S}
      {host : σ} :
      session.stream handle = .ok stream → stream.usable = .ok source →
      Moves action session
        (session.settle handle ((session.loader stream).run source host).2.1
          ((session.loader stream).run source host).1)
  | reread {session : Session S H K} {handle : Handle} {source : S} {offset : UInt64} :
      session.usableSource handle = .ok source →
      Moves action session
        (session.modifyStream handle fun stream =>
          { stream with source := (RecordSource.recordAt source offset).2 })

variable {action : Action S H K} {session after : Session S H K}

theorem moves_of_setFilterMask {filterMask : UInt8}
    (masked : session.setFilterMask filterMask = .ok after) :
    Relation.ReflTransGen (Moves action) session after := by
  obtain ⟨clear, rfl⟩ := setFilterMask_eq_ok masked
  exact .single (.masked clear)

theorem moves_of_addSource {name : String} {source : S} {handle : Handle}
    (added : session.addSource name source = .ok (handle, after)) :
    Relation.ReflTransGen (Moves action) session after := by
  obtain ⟨⟨fresh, streams⟩, inserted, made⟩ := map_eq_ok.mp added
  cases made
  exact .single (.opened inserted)

theorem moves_of_openTrace {path : String} {opened : Except SourceFault S} {handle : Handle}
    (added : session.openTrace path opened = .ok (handle, after)) :
    Relation.ReflTransGen (Moves action) session after := by
  cases opened with
  | error cause => cases added
  | ok source => exact moves_of_addSource added

theorem moves_of_closeAll (closed : session.closeAll = .ok after) :
    Relation.ReflTransGen (Moves .closeAll) session after := by
  unfold closeAll at closed
  generalize session.handles = handles at closed
  induction handles generalizing session with
  | nil =>
      cases closed
      exact .refl
  | cons handle handles ih =>
      rw [List.foldlM_cons] at closed
      cases first : session.close handle with
      | error fault =>
          rw [first] at closed
          cases closed
      | ok middle =>
          rw [first] at closed
          exact .head (.closed (.inr rfl) first) (ih closed)

theorem moves_of_updateStream {handle : Handle} {change : Stream S → Stream S}
    (retunes : ∀ stream, ∃ filters clock, change stream = { stream with filters, clock })
    (updated : session.updateStream handle change = .ok after) :
    Relation.ReflTransGen (Moves action) session after := by
  obtain ⟨stream, _, rfl⟩ := map_eq_ok.mp updated
  exact .single (.tuned retunes)

theorem moves_of_addHook {eventId : Int32} {handle : Handle} {plugin : H}
    (added : session.addHook eventId handle plugin = .ok after) :
    Relation.ReflTransGen (Moves (.addHook eventId handle plugin)) session after := by
  obtain ⟨stream, found, rfl⟩ := map_eq_ok.mp added
  exact .single (.hooked rfl found)

theorem moves_of_addCollection {key : CollectionSpec K} {entries : List Entry}
    (added : session.addCollection key entries = .ok after) :
    Relation.ReflTransGen (Moves (.addCollection key entries)) session after := by
  obtain ⟨stream, found, rfl⟩ := map_eq_ok.mp added
  exact .single (.built rfl found)

theorem moves_of_query {key : CollectionSpec K} {entries : List Entry} {window : Window}
    {ask : Collection K → Option Nat} {answer : Option Nat} {collections : CollectionStore K}
    (asks : action = .firstFrom key entries window ∨ action = .lastUpTo key entries window)
    (queried : session.collections.query key entries ask = .ok (answer, collections)) :
    Relation.ReflTransGen (Moves action) session { session with collections } := by
  unfold CollectionStore.query at queried
  split at queried
  · cases queried
  · rename_i collection found
    obtain ⟨fresh, refreshed, made⟩ := map_eq_ok.mp queried
    cases made
    exact .single (.asked asks found refreshed)

theorem follows_ofChange {change : Session S H K → Except Fault (Session S H K)}
    (moves : ∀ session after, change session = .ok after →
      Relation.ReflTransGen (Moves action) session after) :
    Follows (Moves action) Prod.fst (SessionStep.ofChange change : SessionStep S H K σ Unit) := by
  rintro ⟨session, host⟩
  rw [SessionStep.ofChange, runFrom_mk]
  dsimp only
  split
  · exact .refl
  · rename_i after changed
    exact moves session after changed

theorem follows_quietly {change : Session S H K → Except Fault (Session S H K)}
    (moves : ∀ session after, change session = .ok after →
      Relation.ReflTransGen (Moves action) session after) :
    Follows (Moves action) Prod.fst (perform.quietly (σ := σ) change) :=
  follows_bind (follows_ofChange moves) fun _ => follows_pure none

theorem follows_answering {change : Session S H K → Except Fault (List Entry × Session S H K)}
    (moves : ∀ session entries after, change session = .ok (entries, after) →
      Relation.ReflTransGen (Moves action) session after) :
    Follows (Moves action) Prod.fst (perform.answering (σ := σ) change) := by
  refine follows_bind ?_ fun entries => follows_pure (some entries)
  rintro ⟨session, host⟩
  rw [SessionStep.ofAnswer, runFrom_mk]
  dsimp only
  split
  · exact .refl
  · rename_i entries after changed
    exact moves session entries after changed

theorem follows_reading {α : Type} {step : ReadStep S H K α}
    (follows : Follows (Moves action) id step) :
    Follows (Moves action) Prod.fst (perform.reading (σ := σ) step) := by
  refine follows_bind ?_ fun _ => follows_pure none
  rintro ⟨session, host⟩
  exact follows session

theorem follows_mapSession {change : Session S H K → Session S H K}
    (moves : ∀ session, Relation.ReflTransGen (Moves action) session (change session)) :
    Follows (Moves action) Prod.fst
      (SessionStep.mapSession change : SessionStep S H K σ Unit) :=
  fun (session, _) => moves session

theorem follows_readStream (handle : Handle) :
    Follows (Moves action) Prod.fst (readStream handle : SessionStep S H K σ (List Entry)) := by
  rintro ⟨session, host⟩
  rw [readStream, runFrom_mk]
  dsimp only
  split
  · exact .refl
  · rename_i stream found
    split
    · exact .refl
    · rename_i source usable
      exact .single (.settled found usable)

theorem follows_load (handle : Handle) :
    Follows (Moves action) Prod.fst (load handle : SessionStep S H K σ (List Entry)) :=
  follows_bind (follows_mapSession fun _ => .single .started) fun _ => follows_readStream handle

theorem follows_loadAll :
    Follows (Moves action) Prod.fst (loadAll : SessionStep S H K σ (List Entry)) := by
  refine follows_bind (follows_mapSession fun _ => .single .started) fun _ => ?_
  refine follows_bind (fun _ => .refl) fun (session, _) => ?_
  refine follows_bind ?_ fun merged => ?_
  · apply follows_foldlM
    intro merged handle _
    exact follows_bind (follows_readStream handle) fun entries => follows_pure _
  · refine follows_bind (follows_mapSession fun session => ?_) fun _ => follows_pure merged
    exact .single (.thinned (CollectionStore.thins_resetAll session.collections))

theorem follows_append (prior : List Entry) (handle : Handle) (clock : Option Clock) :
    Follows (Moves action) Prod.fst
      (append prior handle clock : SessionStep S H K σ (List Entry)) := by
  have rest : Follows (Moves action) Prod.fst (do
      let entries ← load handle
      SessionStep.mapSession fun session =>
        { session with
          collections := session.collections.resetStreams (prior.map (·.stream)).eraseDups }
      pure (mergePair prior entries) : SessionStep S H K σ (List Entry)) := by
    refine follows_bind (follows_load handle) fun entries => ?_
    refine follows_bind (follows_mapSession fun session => ?_) fun _ => follows_pure _
    exact .single (.thinned (CollectionStore.thins_resetStreams session.collections _))
  cases clock with
  | none => exact rest
  | some clock =>
      refine follows_bind (follows_ofChange fun session after changed => ?_) fun _ => rest
      exact moves_of_updateStream (fun stream => ⟨stream.filters, some clock, rfl⟩) changed

theorem follows_recordAt (handle : Handle) (offset : UInt64) :
    Follows (Moves action) id (recordAt handle offset : ReadStep S H K Record) := by
  intro session
  rw [recordAt, runFrom_mk]
  dsimp only
  split
  · exact .refl
  · rename_i source usable
    exact .single (.reread usable)

/-- The operation takes the session through its moves only, whether it fails or not. -/
theorem follows_perform [DecidableEq H] (action : Action S H K) :
    Follows (Moves action) Prod.fst
      (perform action : SessionStep S H K σ (Option (List Entry))) := by
  cases action with
  | setFilterMask filterMask =>
      exact follows_quietly fun session after masked => moves_of_setFilterMask masked
  | openTrace path opened =>
      apply follows_quietly
      intro session after added
      obtain ⟨⟨handle, _⟩, opened, rfl⟩ := map_eq_ok.mp added
      exact moves_of_openTrace opened
  | addSource name source =>
      apply follows_quietly
      intro session after added
      obtain ⟨⟨handle, _⟩, inserted, rfl⟩ := map_eq_ok.mp added
      exact moves_of_addSource inserted
  | close handle =>
      exact follows_quietly fun session after closed => .single (.closed (.inl rfl) closed)
  | closeAll => exact follows_quietly fun session after closed => moves_of_closeAll closed
  | addFilter | clearFilter | setContentTest | clearContentTest | setClock | clearClock =>
      exact follows_quietly fun session after updated =>
        moves_of_updateStream (fun stream => ⟨_, _, rfl⟩) updated
  | addHook eventId handle plugin =>
      exact follows_quietly fun session after added => moves_of_addHook added
  | removeHook eventId handle plugin =>
      apply follows_quietly
      intro session after removed
      cases removed
      exact .single (.unhooked List.filter_sublist)
  | draw eventId region =>
      exact follows_bind (fun _ => .refl) fun _ => follows_pure none
  | load handle => exact follows_bind (follows_load handle) fun entries => follows_pure _
  | loadAll => exact follows_bind follows_loadAll fun entries => follows_pure _
  | append prior handle clock =>
      exact follows_bind (follows_append prior handle clock) fun entries => follows_pure _
  | refilter handle entries =>
      apply follows_answering
      intro session refiltered after done
      obtain ⟨_, _, rfl⟩ := refilter_eq_ok done
      exact .single (.thinned (CollectionStore.thins_resetStream session.collections handle))
  | refilterAll entries =>
      apply follows_answering
      intro session refiltered after done
      obtain ⟨_, _, rfl⟩ := refilterAll_eq_ok done
      exact .single (.thinned (CollectionStore.thins_resetStreams session.collections _))
  | clearFilters entries =>
      apply follows_answering
      intro session cleared after done
      cases done
      refine .tail (.single .unfiltered) (.thinned ?_)
      exact CollectionStore.thins_resetAll session.collections
  | recordAt handle offset => exact follows_reading (follows_recordAt handle offset)
  | pidOf entry => exact follows_reading (follows_pidOf follows_recordAt entry)
  | eventIdOf entry => exact follows_reading (follows_eventIdOf follows_recordAt entry)
  | entryLine entry => exact follows_reading (follows_entryLine follows_recordAt entry)
  | addCollection key entries =>
      exact follows_quietly fun session after added => moves_of_addCollection added
  | removeCollection key =>
      apply follows_quietly
      intro session after removed
      obtain ⟨collections, thinner, rfl⟩ := map_eq_ok.mp removed
      exact .single (.thinned (CollectionStore.thins_remove thinner))
  | resetCollection key =>
      apply follows_quietly
      intro session after reset
      obtain ⟨collections, thinner, rfl⟩ := map_eq_ok.mp reset
      exact .single (.thinned (CollectionStore.thins_reset thinner))
  | dropDense =>
      apply follows_quietly
      intro session after dropped
      cases dropped
      exact .single (.thinned (CollectionStore.thins_dropDense session.collections))
  | firstFrom key entries window =>
      apply follows_quietly
      intro session after asked
      obtain ⟨⟨answer, _⟩, queried, rfl⟩ := map_eq_ok.mp asked
      obtain ⟨⟨found, collections⟩, answered, made⟩ := map_eq_ok.mp queried
      cases made
      exact moves_of_query (.inl rfl) answered
  | lastUpTo key entries window =>
      apply follows_quietly
      intro session after asked
      obtain ⟨⟨answer, _⟩, queried, rfl⟩ := map_eq_ok.mp asked
      obtain ⟨⟨found, collections⟩, answered, made⟩ := map_eq_ok.mp queried
      cases made
      exact moves_of_query (.inr rfl) answered

inductive Answers : Action S H K → Session S H K × σ → List Entry → Session S H K × σ → Prop
  | load {handle : Handle} {before after : Session S H K × σ} {list : List Entry} :
      runFrom (load handle) before = (.ok list, after) → Answers (.load handle) before list after
  | loadAll {before after : Session S H K × σ} {list : List Entry} :
      runFrom loadAll before = (.ok list, after) → Answers .loadAll before list after
  | append {prior : List Entry} {handle : Handle} {clock : Option Clock}
      {before after : Session S H K × σ} {list : List Entry} :
      runFrom (append prior handle clock) before = (.ok list, after) →
      Answers (.append prior handle clock) before list after
  | refilter {handle : Handle} {entries list : List Entry} {session after : Session S H K}
      {host : σ} :
      session.refilter handle entries = .ok (list, after) →
      Answers (.refilter handle entries) (session, host) list (after, host)
  | refilterAll {entries list : List Entry} {session after : Session S H K} {host : σ} :
      session.refilterAll entries = .ok (list, after) →
      Answers (.refilterAll entries) (session, host) list (after, host)
  | clearFilters {entries : List Entry} {session : Session S H K} {host : σ} :
      Answers (.clearFilters entries) (session, host) (session.clearFilters entries).1
        ((session.clearFilters entries).2, host)

theorem answers_of_perform [DecidableEq H] {action : Action S H K}
    (ran : runFrom (perform action) before = (.ok (some list), state)) :
    Answers action before list state := by
  obtain ⟨session, host⟩ := before
  obtain ⟨after, host'⟩ := state
  cases action with
  | load handle =>
      obtain ⟨entries, _, loaded, rest⟩ := runFrom_bind_eq_ok ran
      cases rest
      exact .load loaded
  | loadAll =>
      obtain ⟨entries, _, loaded, rest⟩ := runFrom_bind_eq_ok ran
      cases rest
      exact .loadAll loaded
  | append prior handle clock =>
      obtain ⟨entries, _, appended, rest⟩ := runFrom_bind_eq_ok ran
      cases rest
      exact .append appended
  | refilter handle entries =>
      obtain ⟨done, rfl⟩ := answering_answer ran
      exact .refilter done
  | refilterAll entries =>
      obtain ⟨done, rfl⟩ := answering_answer ran
      exact .refilterAll done
  | clearFilters entries =>
      obtain ⟨done, same⟩ := answering_answer ran
      dsimp only at done same
      subst same
      cases done
      exact .clearFilters
  | draw eventId region =>
      obtain ⟨_, _, _, rest⟩ := runFrom_bind_eq_ok ran
      cases rest
  | recordAt | pidOf | eventIdOf | entryLine => cases reading_answer ran
  | _ => cases quietly_answer ran

end Session

end KernelTrace
