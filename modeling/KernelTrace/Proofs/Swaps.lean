import KernelTrace.Proofs.Anchors
import KernelTrace.Proofs.Appends
import KernelTrace.Proofs.Modifications
import KernelTrace.Proofs.Replies

/-! Sessions of which one stream has another source, usable or not. An action that needs no source
of that stream is answered alike, and leaves the same difference. -/

namespace KernelTrace

section

variable {ε α β : Type}

theorem map_map_swap (outcome : Except ε α) {made remade : α → β} {swap : β → β}
    (swaps : ∀ value, remade value = swap (made value)) :
    outcome.map remade = (outcome.map made).map swap := by
  cases outcome with
  | error cause => rfl
  | ok value => exact congrArg Except.ok (swaps value)

end

section

variable {ε s α β : Type}

/-- A change of the state before the step shows up as the same change after it, and nowhere else. -/
def Commutes (change : s → s) (step : ExceptT ε (StateM s) α) (state : s) : Prop :=
  runFrom step (change state) = Prod.map id change (runFrom step state)

variable {change : s → s} {state : s} {step : ExceptT ε (StateM s) α}
  {next : α → ExceptT ε (StateM s) β}

theorem commutes_pure (value : α) :
    Commutes change (pure value : ExceptT ε (StateM s) α) state := rfl

theorem commutes_bind (first : Commutes change step state)
    (second : ∀ value after, Commutes change (next value) after) :
    Commutes change (step >>= next) state := by
  rw [Commutes, runFrom_bind, runFrom_bind, first]
  rcases runFrom step state with ⟨cause | value, after⟩
  · rfl
  · exact second value after

theorem commutes_foldlM {step : β → α → ExceptT ε (StateM s) β} {items : List α}
    (each : ∀ item ∈ items, ∀ value after, Commutes change (step value item) after) (start : β) :
    Commutes change (items.foldlM step start) state := by
  induction items generalizing start state with
  | nil => exact commutes_pure start
  | cons item items ih =>
      rw [List.foldlM_cons]
      apply commutes_bind (each item List.mem_cons_self start state)
      intro value after
      exact ih (fun other member => each other (List.mem_cons_of_mem item member)) value

end

def Action.Draws {S H K : Type} (handle : Handle) : Action S H K → Prop
  | .load wanted | .append _ wanted _ | .recordAt wanted _ => wanted = handle
  | .loadAll => True
  | .pidOf entry | .eventIdOf entry => entry.stream = handle ∧ entry.isUntouched = false
  | .entryLine entry => entry.stream = handle
  | _ => False

namespace Session

variable {S H K σ : Type}

/-- The session with this source in the stream of the handle, if that is open. -/
def swapSource (session : Session S H K) (handle : Handle) (source : S) (poisoned : Bool) :
    Session S H K :=
  session.modifyStream handle fun stream => { stream with source, poisoned }

variable {session : Session S H K} {handle other : Handle} {source : S} {poisoned : Bool}
  {stream : Stream S} {host : σ}

theorem stream_swapSource_of_ne (differ : other ≠ handle) :
    (session.swapSource handle source poisoned).stream other = session.stream other :=
  stream_modify_of_ne differ

theorem stream_swapSource :
    (session.swapSource handle source poisoned).stream handle =
      (session.stream handle).map fun stream => { stream with source, poisoned } :=
  stream_modify handle _

theorem handles_swapSource :
    (session.swapSource handle source poisoned).handles = session.handles :=
  Registry.handles_modify fun _ => rfl

theorem swapSource_swapSource (other : S) (spoilt : Bool) :
    (session.swapSource handle source poisoned).swapSource handle other spoilt =
      session.swapSource handle other spoilt := by
  simp only [swapSource, modifyStream, Registry.modify_modify]
  rfl

theorem swapSource_self (found : session.stream handle = .ok stream) :
    session.swapSource handle stream.source stream.poisoned = session :=
  modifyStream_of_same found rfl

theorem map_stream_swapSource {α : Type} {read : Stream S → α}
    (blind : ∀ stream, read { stream with source, poisoned } = read stream) (other : Handle) :
    ((session.swapSource handle source poisoned).stream other).map read =
      (session.stream other).map read := by
  by_cases same : other = handle
  · subst same
    rw [stream_swapSource]
    cases session.stream other with
    | error fault => rfl
    | ok stream => exact congrArg Except.ok (blind stream)
  · rw [stream_swapSource_of_ne same]

theorem idFilters_swapSource (other : Handle) :
    (session.swapSource handle source poisoned).idFilters other = session.idFilters other := by
  by_cases same : other = handle
  · subst same
    rw [idFilters, idFilters, stream_swapSource]
    cases session.stream other <;> rfl
  · rw [idFilters, idFilters, stream_swapSource_of_ne same]

theorem modifyStream_swapSource {change : Stream S → Stream S}
    (blind : ∀ stream, change { stream with source, poisoned } =
      { change stream with source, poisoned }) (other : Handle) :
    (session.swapSource handle source poisoned).modifyStream other change =
      (session.modifyStream other change).swapSource handle source poisoned := by
  simp only [swapSource, modifyStream]
  by_cases same : other = handle
  · subst same
    rw [Registry.modify_modify, Registry.modify_modify]
    have swapped : change ∘ (fun stream : Stream S => { stream with source, poisoned }) =
        (fun stream => { stream with source, poisoned }) ∘ change := funext blind
    rw [swapped]
  · rw [Registry.modify_comm same]

theorem updateStream_swapSource {change : Stream S → Stream S}
    (blind : ∀ stream, change { stream with source, poisoned } =
      { change stream with source, poisoned }) (other : Handle) :
    (session.swapSource handle source poisoned).updateStream other change =
      (session.updateStream other change).map (·.swapSource handle source poisoned) := by
  rw [updateStream, map_stream_swapSource fun _ => rfl, modifyStream_swapSource blind, updateStream]
  exact map_map_swap _ fun _ => rfl

theorem setFilterMask_swapSource (filterMask : UInt8) :
    (session.swapSource handle source poisoned).setFilterMask filterMask =
      (session.setFilterMask filterMask).map (·.swapSource handle source poisoned) := by
  have settings : (session.swapSource handle source poisoned).settings = session.settings := rfl
  rw [setFilterMask, setFilterMask, settings]
  cases ({ session.settings with filterMask } : Settings).validate <;> rfl

theorem addHook_swapSource (eventId : Int32) (other : Handle) (plugin : H) :
    (session.swapSource handle source poisoned).addHook eventId other plugin =
      (session.addHook eventId other plugin).map (·.swapSource handle source poisoned) := by
  rw [addHook, map_stream_swapSource fun _ => rfl, addHook]
  exact map_map_swap _ fun _ => rfl

theorem addCollection_swapSource [DecidableEq K] [Condition K] (key : CollectionSpec K)
    (entries : List Entry) :
    (session.swapSource handle source poisoned).addCollection key entries =
      (session.addCollection key entries).map (·.swapSource handle source poisoned) := by
  rw [addCollection, map_stream_swapSource fun _ => rfl, addCollection]
  exact map_map_swap _ fun _ => rfl

theorem close_eq_map (session : Session S H K) (other : Handle) :
    session.close other = ((session.streams.erase other).map (·.2)).map fun streams =>
      { session with
        streams
        collections := session.collections.removeStream other
        hooks := session.hooks.removeStream other } := by
  rw [close]
  cases session.streams.erase other <;> rfl

theorem close_swapSource (session : Session S H K) (other : Handle) :
    (session.swapSource handle source poisoned).close other =
      (session.close other).map (·.swapSource handle source poisoned) := by
  rw [close_eq_map, close_eq_map, swapSource, modifyStream, Registry.erase_modify]
  cases session.streams.erase other <;> rfl

theorem closeAll_swapSource (session : Session S H K) :
    (session.swapSource handle source poisoned).closeAll =
      session.closeAll.map (·.swapSource handle source poisoned) := by
  rw [closeAll, closeAll, handles_swapSource]
  generalize session.handles = handles
  induction handles generalizing session with
  | nil => rfl
  | cons other handles ih =>
      rw [List.foldlM_cons, List.foldlM_cons, close_swapSource]
      cases session.close other with
      | error fault => rfl
      | ok after => exact ih after

theorem close_of_swapSource (session : Session S H K) :
    (session.swapSource handle source poisoned).close handle = session.close handle := by
  rw [close_swapSource]
  cases closed : session.close handle with
  | error fault => rfl
  | ok after =>
      obtain ⟨_, _, erased, rfl⟩ := close_eq_ok closed
      have gone := Registry.get_erase erased handle
      rw [if_pos rfl] at gone
      exact congrArg Except.ok (modifyStream_of_closed gone)

theorem closeAll_of_swapSource (sound : session.Sound) :
    (session.swapSource handle source poisoned).closeAll = session.closeAll := by
  obtain ⟨after, closed⟩ := sound.closeAll_eq_ok
  have none : after.handles = [] := by
    rw [sound.handles_of_foldlM closed, List.filter_eq_nil_iff]
    simp
  rw [closeAll_swapSource, closed]
  cases found : after.stream handle with
  | error fault => exact congrArg Except.ok (modifyStream_of_closed found)
  | ok stream =>
      have present := Registry.mem_streams_of_find? (Registry.get_eq_ok.mp found)
      have member : stream.handle ∈ after.handles := List.mem_map_of_mem present
      rw [none] at member
      cases member

theorem refilter_swapSource (other : Handle) (entries : List Entry) :
    (session.swapSource handle source poisoned).refilter other entries =
      (session.refilter other entries).map
        (Prod.map id (·.swapSource handle source poisoned)) := by
  rw [refilter, refilter, idFilters_swapSource]
  exact map_map_swap _ fun _ => rfl

theorem refilterAll_swapSource (entries : List Entry) :
    (session.swapSource handle source poisoned).refilterAll entries =
      (session.refilterAll entries).map (Prod.map id (·.swapSource handle source poisoned)) := by
  simp only [refilterAll, idFilters_swapSource]
  cases (streamsOf entries).forM fun handle => (session.idFilters handle).map fun _ => () with
  | error fault => rfl
  | ok allowed =>
      have settings : (session.swapSource handle source poisoned).settings = session.settings := rfl
      simp only [settings]
      cases entries.mapM fun entry => (session.idFilters entry.stream).map fun filters =>
          filters.reapply session.settings.filterMask entry with
      | error fault => rfl
      | ok list => rfl

theorem clearFilters_swapSource (entries : List Entry) :
    (session.swapSource handle source poisoned).clearFilters entries =
      Prod.map id (·.swapSource handle source poisoned) (session.clearFilters entries) := by
  have cleared : (session.swapSource handle source poisoned).streams.mapStreams (fun stream =>
        { stream with filters := {} }) =
      (session.streams.mapStreams fun stream => { stream with filters := {} }).modify handle
        fun stream => { stream with source, poisoned } :=
    Registry.mapStreams_modify fun _ => rfl
  simp only [clearFilters, cleared]
  rfl

theorem addSource_swapSource [RecordSource S] (found : session.stream handle = .ok stream)
    (name : String) (added : S) :
    (session.swapSource handle source poisoned).addSource name added =
      (session.addSource name added).map (Prod.map id (·.swapSource handle source poisoned)) := by
  have present := Registry.get_eq_ok.mp found
  simp only [addSource, swapSource, modifyStream, Registry.insert_modify present]
  cases session.streams.insert name added <;> rfl

def swapped (handle : Handle) (source : S) (poisoned : Bool) :
    Session S H K × σ → Session S H K × σ :=
  Prod.map (·.swapSource handle source poisoned) id

theorem ofChange_commutes {change : Session S H K → Except Fault (Session S H K)}
    (swaps : change (session.swapSource handle source poisoned) =
      (change session).map (·.swapSource handle source poisoned)) :
    Commutes (swapped handle source poisoned)
      (SessionStep.ofChange change : SessionStep S H K σ Unit) (session, host) := by
  rw [Commutes, SessionStep.ofChange, runFrom_mk, runFrom_mk, swapped, Prod.map_apply]
  dsimp only
  rw [swaps]
  cases change session <;> rfl

theorem ofAnswer_commutes {α : Type}
    {change : Session S H K → Except Fault (α × Session S H K)}
    (swaps : change (session.swapSource handle source poisoned) =
      (change session).map (Prod.map id (·.swapSource handle source poisoned))) :
    Commutes (swapped handle source poisoned)
      (SessionStep.ofAnswer change : SessionStep S H K σ α) (session, host) := by
  rw [Commutes, SessionStep.ofAnswer, runFrom_mk, runFrom_mk, swapped, Prod.map_apply]
  dsimp only
  rw [swaps]
  cases change session <;> rfl

theorem ofRead_commutes {α : Type} {step : ReadStep S H K α}
    (swaps : Commutes (·.swapSource handle source poisoned) step session) :
    Commutes (swapped handle source poisoned)
      (SessionStep.ofRead step : SessionStep S H K σ α) (session, host) := by
  rw [Commutes, SessionStep.ofRead, runFrom_mk, runFrom_mk, swapped, Prod.map_apply]
  dsimp only
  rw [swaps]
  rfl

theorem ofHosted_commutes {α : Type} {step : Session S H K → Hosted σ α}
    (blind : step (session.swapSource handle source poisoned) = step session) :
    Commutes (swapped handle source poisoned) (SessionStep.ofHosted step) (session, host) := by
  rw [Commutes, SessionStep.ofHosted, runFrom_mk, runFrom_mk, swapped, Prod.map_apply]
  dsimp only
  rw [blind]
  rfl

theorem mapSession_commutes {change : Session S H K → Session S H K}
    (swaps : ∀ session, change (session.swapSource handle source poisoned) =
      (change session).swapSource handle source poisoned) (state : Session S H K × σ) :
    Commutes (swapped handle source poisoned)
      (SessionStep.mapSession change : SessionStep S H K σ Unit) state :=
  congrArg (fun after => (Except.ok (), after, state.2)) (swaps state.1)

theorem modifyStream_swapSource_of_ne (differ : other ≠ handle) (session : Session S H K)
    (change : Stream S → Stream S) :
    (session.swapSource handle source poisoned).modifyStream other change =
      (session.modifyStream other change).swapSource handle source poisoned := by
  rw [swapSource, modifyStream, modifyStream, modifyStream, Registry.modify_comm differ]
  rfl

theorem usableSource_swapSource (differ : other ≠ handle) :
    (session.swapSource handle source poisoned).usableSource other =
      session.usableSource other := by
  rw [usableSource, usableSource, stream_swapSource_of_ne differ]

theorem settle_swapSource (differ : other ≠ handle) (session : Session S H K) (read : S)
    (report : LoadReport) :
    (session.swapSource handle source poisoned).settle other read report =
      (session.settle other read report).swapSource handle source poisoned := by
  let counted : Session S H K := { session with progress := session.progress + report.completed }
  have moved (change : Stream S → Stream S) :
      (counted.swapSource handle source poisoned).modifyStream other change =
        (counted.modifyStream other change).swapSource handle source poisoned :=
    modifyStream_swapSource_of_ne differ counted change
  rcases report with ⟨(fault | panic) | loaded, completed⟩
  · exact moved _
  · exact moved _
  · exact congrArg (fun later : Session S H K =>
      { later with collections := session.collections.resetStream other }) (moved _)

theorem ask_commutes {α : Type} {ask : Session S H K → Except Fault α}
    (blind : ask (session.swapSource handle source poisoned) = ask session) :
    Commutes (·.swapSource handle source poisoned)
      (ExceptT.mk do pure (ask (← get)) : ReadStep S H K α) session :=
  congrArg (fun found => (found, session.swapSource handle source poisoned)) blind

variable [RecordSource S]

theorem recordAt_commutes (differ : other ≠ handle) (offset : UInt64) (session : Session S H K) :
    Commutes (·.swapSource handle source poisoned)
      (recordAt other offset : ReadStep S H K Record) session := by
  rw [Commutes, recordAt, runFrom_mk, runFrom_mk, usableSource_swapSource differ]
  cases session.usableSource other with
  | error fault => rfl
  | ok read =>
      dsimp only
      rw [modifyStream_swapSource_of_ne differ]
      rfl

theorem entryLine_commutes {entry : Entry} (differ : entry.stream ≠ handle)
    (session : Session S H K) :
    Commutes (·.swapSource handle source poisoned)
      (entryLine entry : ReadStep S H K String) session := by
  have named : (session.swapSource handle source poisoned).taskName entry.stream entry.pid =
      session.taskName entry.stream entry.pid :=
    congrArg (Except.map _) (usableSource_swapSource differ)
  refine commutes_bind (ask_commutes named) fun task after => ?_
  refine commutes_bind ?_ fun _ _ => commutes_pure _
  unfold describe
  split
  · exact commutes_pure _
  · refine commutes_bind (recordAt_commutes differ _ after) fun record middle => ?_
    exact commutes_bind (ask_commutes (usableSource_swapSource differ)) fun _ _ => commutes_pure _

theorem pidOf_commutes {entry : Entry}
    (drawless : ¬(entry.stream = handle ∧ entry.isUntouched = false)) (session : Session S H K) :
    Commutes (·.swapSource handle source poisoned)
      (pidOf entry : ReadStep S H K Int32) session := by
  unfold pidOf
  split
  · exact commutes_pure _
  · rename_i touched
    have differ : entry.stream ≠ handle := fun own =>
      drawless ⟨own, Bool.eq_false_iff.mpr touched⟩
    exact commutes_bind (recordAt_commutes differ _ session) fun _ _ => commutes_pure _

theorem eventIdOf_commutes {entry : Entry}
    (drawless : ¬(entry.stream = handle ∧ entry.isUntouched = false)) (session : Session S H K) :
    Commutes (·.swapSource handle source poisoned)
      (eventIdOf entry : ReadStep S H K Int32) session := by
  unfold eventIdOf
  split
  · exact commutes_pure _
  · rename_i touched
    have differ : entry.stream ≠ handle := fun own =>
      drawless ⟨own, Bool.eq_false_iff.mpr touched⟩
    exact commutes_bind (recordAt_commutes differ _ session) fun _ _ => commutes_pure _

variable [Plugin H σ]

theorem readStream_commutes (differ : other ≠ handle) (state : Session S H K × σ) :
    Commutes (swapped handle source poisoned)
      (readStream other : SessionStep S H K σ (List Entry)) state := by
  obtain ⟨session, host⟩ := state
  rw [Commutes, readStream, runFrom_mk, runFrom_mk, swapped, Prod.map_apply]
  dsimp only
  rw [stream_swapSource_of_ne differ]
  cases session.stream other with
  | error fault => rfl
  | ok stream =>
      dsimp only
      cases stream.usable with
      | error fault => rfl
      | ok read =>
          have loader : (session.swapSource handle source poisoned).loader stream =
            session.loader stream := rfl
          dsimp only
          rw [loader, settle_swapSource differ]
          rfl

theorem load_commutes (differ : other ≠ handle) (state : Session S H K × σ) :
    Commutes (swapped handle source poisoned)
      (load other : SessionStep S H K σ (List Entry)) state := by
  apply commutes_bind (mapSession_commutes (fun _ => rfl) state)
  exact fun _ after => readStream_commutes differ after

theorem append_commutes (differ : other ≠ handle) (prior : List Entry) (clock : Option Clock)
    (state : Session S H K × σ) :
    Commutes (swapped handle source poisoned)
      (append prior other clock : SessionStep S H K σ (List Entry)) state := by
  have rest (state : Session S H K × σ) : Commutes (swapped handle source poisoned) (do
      let entries ← load other
      SessionStep.mapSession fun session =>
        { session with
          collections := session.collections.resetStreams (prior.map (·.stream)).eraseDups }
      pure (mergePair prior entries) : SessionStep S H K σ (List Entry)) state := by
    apply commutes_bind (load_commutes differ state)
    intro entries after
    apply commutes_bind (mapSession_commutes (fun _ => rfl) after)
    exact fun _ _ => commutes_pure _
  cases clock with
  | none => exact rest state
  | some clock =>
      refine commutes_bind (ofChange_commutes ?_) fun _ after => rest after
      exact updateStream_swapSource (fun _ => rfl) other

theorem fold_commutes {handles : List Handle} (absent : handle ∉ handles) (start : List Entry)
    (state : Session S H K × σ) :
    Commutes (swapped handle source poisoned)
      (handles.foldlM mergeNext start : SessionStep S H K σ (List Entry)) state := by
  apply commutes_foldlM
  intro other member merged after
  apply commutes_bind (readStream_commutes (ne_of_mem_of_not_mem member absent) after)
  exact fun _ _ => commutes_pure _

variable [DecidableEq H] [DecidableEq K] [Condition K] {action : Action S H K}

/-- An action that does not draw on the source of this stream is answered as if the stream had
another one, and leaves the session as if it had. -/
theorem answer_commutes (found : session.stream handle = .ok stream)
    (drawless : ¬action.Draws handle) (host : σ) :
    Commutes (swapped handle source poisoned) (answer action) (session, host) := by
  have silent {change : Session S H K → Except Fault (Session S H K)}
      (swaps : change (session.swapSource handle source poisoned) =
        (change session).map (·.swapSource handle source poisoned)) :
      Commutes (swapped handle source poisoned) (answer.silently (σ := σ) change)
        (session, host) :=
    commutes_bind (ofChange_commutes swaps) fun _ _ => commutes_pure _
  have told {α : Type} {reply : α → Reply}
      {change : Session S H K → Except Fault (α × Session S H K)}
      (swaps : change (session.swapSource handle source poisoned) =
        (change session).map (Prod.map id (·.swapSource handle source poisoned))) :
      Commutes (swapped handle source poisoned) (answer.telling (σ := σ) reply change)
        (session, host) :=
    commutes_bind (ofAnswer_commutes swaps) fun _ _ => commutes_pure _
  have reread {α : Type} {reply : α → Reply} {step : ReadStep S H K α}
      (swaps : Commutes (·.swapSource handle source poisoned) step session) :
      Commutes (swapped handle source poisoned) (answer.rereading (σ := σ) reply step)
        (session, host) :=
    commutes_bind (ofRead_commutes swaps) fun _ _ => commutes_pure _
  have listed {step : SessionStep S H K σ (List Entry)}
      (commutes : Commutes (swapped handle source poisoned) step (session, host)) :
      Commutes (swapped handle source poisoned) (do pure (Reply.listed (← step))) (session, host) :=
    commutes_bind commutes fun _ _ => commutes_pure _
  cases action with
  | setFilterMask filterMask => exact silent (setFilterMask_swapSource filterMask)
  | openTrace path opened =>
      cases opened with
      | error cause => exact told rfl
      | ok added => exact told (addSource_swapSource found path added)
  | addSource name added => exact told (addSource_swapSource found name added)
  | close other => exact silent (close_swapSource session other)
  | closeAll => exact silent (closeAll_swapSource session)
  | addFilter | clearFilter | setContentTest | clearContentTest | setClock | clearClock =>
      exact silent (updateStream_swapSource (fun _ => rfl) _)
  | addHook eventId other plugin => exact silent (addHook_swapSource eventId other plugin)
  | removeHook | dropDense => exact told rfl
  | draw eventId region =>
      exact commutes_bind (ofHosted_commutes rfl) fun _ _ => commutes_pure _
  | load other => exact listed (load_commutes drawless (session, host))
  | loadAll => exact absurd trivial drawless
  | append prior other clock => exact listed (append_commutes drawless prior clock (session, host))
  | refilter other entries => exact told (refilter_swapSource other entries)
  | refilterAll entries => exact told (refilterAll_swapSource entries)
  | clearFilters entries => exact told (congrArg Except.ok (clearFilters_swapSource entries))
  | recordAt other offset => exact reread (recordAt_commutes drawless offset session)
  | pidOf entry => exact reread (pidOf_commutes drawless session)
  | eventIdOf entry => exact reread (eventIdOf_commutes drawless session)
  | entryLine entry => exact reread (entryLine_commutes drawless session)
  | addCollection key entries => exact silent (addCollection_swapSource key entries)
  | removeCollection key => exact silent (map_map_swap _ fun _ => rfl)
  | resetCollection key => exact silent (map_map_swap _ fun _ => rfl)
  | firstFrom key entries window => exact told (map_map_swap _ fun _ => rfl)
  | lastUpTo key entries window => exact told (map_map_swap _ fun _ => rfl)

theorem answers_commute {actions : List (Action S H K)} (sound : session.Sound)
    (found : session.stream handle = .ok stream)
    (apart : ∀ action ∈ actions, action.Spares handle ∧ ¬action.Draws handle) (host : σ) :
    answers actions (swapped handle source poisoned (session, host)) =
      Prod.map id (swapped handle source poisoned) (answers actions (session, host)) := by
  induction actions generalizing session stream host with
  | nil => rfl
  | cons action actions ih =>
      obtain ⟨⟨spares, drawless⟩, apart⟩ := List.forall_mem_cons.mp apart
      have step : runFrom (answer action) (swapped handle source poisoned (session, host)) =
          Prod.map id (swapped handle source poisoned) (runFrom (answer action) (session, host)) :=
        answer_commutes found drawless host
      have moves := follows_perform action (session, host)
      rw [runFrom_perform] at moves
      have soundly := sound_of_moves moves sound
      obtain ⟨still, there, _⟩ := reads_of_moves moves sound spares ⟨stream, found, .unread⟩
      simp only [answers, step, Prod.map_fst, Prod.map_snd]
      rw [ih soundly there apart]
      rfl

/-- Callers who do without the source of this stream cannot tell whether it is this one and usable:
nothing else that they can ask for depends on it, nor what becomes of the session by their calls.
Once the stream is closed, nobody can. -/
structure Conceals (session : Session S H K) (handle : Handle) (source : S) : Prop where
  settings : (session.swapSource handle source false).settings = session.settings
  hooks : (session.swapSource handle source false).hooks = session.hooks
  collections : (session.swapSource handle source false).collections = session.collections
  progress : (session.swapSource handle source false).progress = session.progress
  handles : (session.swapSource handle source false).handles = session.handles
  tasks : ∀ other,
    (session.swapSource handle source false).tasks other = session.tasks other
  filterIds : ∀ other subject side,
    (session.swapSource handle source false).filterIds other subject side =
      session.filterIds other subject side
  hasFilters : ∀ other,
    (session.swapSource handle source false).hasFilters other = session.hasFilters other
  clock : ∀ other, ((session.swapSource handle source false).stream other).map (·.clock) =
    (session.stream other).map (·.clock)
  details : ∀ other, ((session.swapSource handle source false).stream other).map (·.details) =
    (session.stream other).map (·.details)
  others : ∀ other, other ≠ handle →
    (session.swapSource handle source false).stream other = session.stream other
  eventName : ∀ other eventId, other ≠ handle →
    (session.swapSource handle source false).eventName other eventId =
      session.eventName other eventId
  taskName : ∀ other pid, other ≠ handle →
    (session.swapSource handle source false).taskName other pid = session.taskName other pid
  replies : ∀ (actions : List (Action S H K)) (host : σ),
    (∀ action ∈ actions, action.Spares handle ∧ ¬action.Draws handle) →
    answers actions (session.swapSource handle source false, host) =
      Prod.map id (Prod.map (·.swapSource handle source false) id)
        (answers actions (session, host))
  loads : ∀ (earlier : List Handle) (host : σ), handle ∉ earlier →
    runFrom (earlier.foldlM mergeNext []) (session.swapSource handle source false, host) =
      Prod.map id (Prod.map (·.swapSource handle source false) id)
        (runFrom (earlier.foldlM mergeNext []) (session, host))
  close : (session.swapSource handle source false).close handle = session.close handle
  closeAll : (session.swapSource handle source false).closeAll = session.closeAll

theorem Sound.conceals (sound : session.Sound) (found : session.stream handle = .ok stream)
    (source : S) : session.Conceals handle source where
  settings := rfl
  hooks := rfl
  collections := rfl
  progress := rfl
  handles := handles_swapSource
  tasks := map_stream_swapSource fun _ => rfl
  filterIds other _ _ := map_stream_swapSource (fun _ => rfl) other
  hasFilters := map_stream_swapSource fun _ => rfl
  clock := map_stream_swapSource fun _ => rfl
  details := map_stream_swapSource fun _ => rfl
  others _ := stream_swapSource_of_ne
  eventName _ _ differ := congrArg _ (usableSource_swapSource differ)
  taskName _ _ differ := congrArg _ (usableSource_swapSource differ)
  replies _ host apart := answers_commute sound found apart host
  loads _ host absent := fold_commutes absent [] (session, host)
  close := close_of_swapSource session
  closeAll := closeAll_of_swapSource sound

end Session
end KernelTrace
