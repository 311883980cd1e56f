import KernelTrace.Proofs.Anchors
import KernelTrace.Proofs.LoadAll

namespace KernelTrace

variable {S H K σ : Type}

/-- The action cannot do without the stream of this handle: it works on the stream, or on entries
that no other stream can answer for. -/
def Action.Needs (session : Session S H K) (handle : Handle) : Action S H K → Prop
  | .close wanted | .addFilter wanted _ | .clearFilter wanted _ _ | .setContentTest wanted _
  | .clearContentTest wanted | .setClock wanted _ | .clearClock wanted | .addHook _ wanted _
  | .load wanted | .append _ wanted _ | .refilter wanted _ | .recordAt wanted _ => wanted = handle
  | .refilterAll entries => (∃ entry ∈ entries, entry.stream = handle) ∧
      ∀ entry ∈ entries, entry.stream ≠ handle →
        ∃ filters, session.idFilters entry.stream = .ok filters
  | .pidOf entry | .eventIdOf entry => entry.stream = handle ∧ entry.isUntouched = false
  | .entryLine entry => entry.stream = handle
  | .addCollection key _ => key.stream = handle
  | _ => False

def Action.Asks (handle : Handle) : Action S H K → Prop
  | .removeCollection key | .resetCollection key | .firstFrom key _ _ | .lastUpTo key _ _ =>
    key.stream = handle
  | _ => False

namespace Session

variable {session after : Session S H K} {host : σ} {handle : Handle} {fault : Fault}

theorem quietly_of_error {change : Session S H K → Except Fault (Session S H K)}
    (failed : change session = .error fault) :
    runFrom (perform.quietly change) (session, host) = (.error (.fault fault), session, host) := by
  apply runFrom_bind_error
  rw [SessionStep.ofChange, runFrom_mk]
  simp only [failed]

theorem answering_of_error {change : Session S H K → Except Fault (List Entry × Session S H K)}
    (failed : change session = .error fault) :
    runFrom (perform.answering change) (session, host) =
      (.error (.fault fault), session, host) := by
  apply runFrom_bind_error
  rw [SessionStep.ofAnswer, runFrom_mk]
  simp only [failed]

theorem reading_of_error {α : Type} {step : ReadStep S H K α}
    (failed : runFrom step session = (.error fault, session)) :
    runFrom (perform.reading step) (session, host) = (.error (.fault fault), session, host) := by
  apply runFrom_bind_error
  rw [SessionStep.ofRead, runFrom_mk]
  simp only [failed]
  rfl

theorem updateStream_of_closed {change : Stream S → Stream S}
    (missing : session.stream handle = .error fault) :
    session.updateStream handle change = .error fault :=
  map_eq_error.mpr missing

theorem idFilters_of_closed (missing : session.stream handle = .error fault) :
    session.idFilters handle = .error fault := by
  rw [idFilters, missing]

theorem forM_refused {α : Type} {step : α → Except Fault Unit} {items : List α} {item : α}
    (member : item ∈ items) (refused : step item = .error fault)
    (others : ∀ other ∈ items, other ≠ item → step other = .ok ()) :
    items.forM step = .error fault := by
  induction items with
  | nil => cases member
  | cons head items ih =>
      rw [List.forM]
      by_cases same : head = item
      · rw [same, refused]
        rfl
      · rw [others head List.mem_cons_self same]
        exact ih (List.mem_of_ne_of_mem (Ne.symm same) member)
          fun other later => others other (List.mem_cons_of_mem _ later)

theorem refilterAll_of_closed {entries : List Entry}
    (missing : session.stream handle = .error fault)
    (present : ∃ entry ∈ entries, entry.stream = handle)
    (others : ∀ entry ∈ entries, entry.stream ≠ handle →
      ∃ filters, session.idFilters entry.stream = .ok filters) :
    session.refilterAll entries = .error fault := by
  have refused : (streamsOf entries).forM (fun handle =>
      (session.idFilters handle).map fun _ => ()) = .error fault := by
    apply forM_refused (mem_streamsOf.mpr present) (map_eq_error.mpr (idFilters_of_closed missing))
    intro other member differ
    obtain ⟨entry, found, rfl⟩ := mem_streamsOf.mp member
    obtain ⟨filters, allowed⟩ := others entry found differ
    exact map_eq_ok.mpr ⟨filters, allowed, rfl⟩
  rw [refilterAll, refused]
  rfl

section

variable [RecordSource S]

theorem recordAt_of_unusable {offset : UInt64}
    (unusable : session.usableSource handle = .error fault) :
    runFrom (recordAt handle offset) session = (.error fault, session) := by
  simp only [recordAt, runFrom_mk, unusable]

theorem pidOf_of_unusable {entry : Entry}
    (unusable : session.usableSource entry.stream = .error fault)
    (touched : entry.isUntouched = false) :
    runFrom (pidOf entry) session = (.error fault, session) := by
  rw [pidOf, touched]
  exact runFrom_bind_error (recordAt_of_unusable unusable)

theorem eventIdOf_of_unusable {entry : Entry}
    (unusable : session.usableSource entry.stream = .error fault)
    (touched : entry.isUntouched = false) :
    runFrom (eventIdOf entry) session = (.error fault, session) := by
  rw [eventIdOf, touched]
  exact runFrom_bind_error (recordAt_of_unusable unusable)

theorem entryLine_of_unusable {entry : Entry}
    (unusable : session.usableSource entry.stream = .error fault) :
    runFrom (entryLine entry) session = (.error fault, session) := by
  have named : session.taskName entry.stream entry.pid = .error fault := map_eq_error.mpr unusable
  apply runFrom_bind_error
  exact congrArg (·, session) named

variable [Plugin H σ]

theorem append_of_closed {prior : List Entry} {clock : Option Clock}
    (missing : session.stream handle = .error fault) :
    ∃ progress, runFrom (append prior handle clock) (session, host) =
      (.error (.fault fault), { session with progress }, host) := by
  have refused := load_of_unusable (usableSource_of_closed missing) host
  cases clock with
  | none => exact ⟨0, runFrom_bind_error refused⟩
  | some clock =>
      refine ⟨session.progress, runFrom_bind_error ?_⟩
      rw [SessionStep.ofChange, runFrom_mk]
      simp only [setClock, updateStream_of_closed missing]

variable [DecidableEq H] [DecidableEq K] [Condition K] {action : Action S H K}

/-- Without the stream that the action needs, it fails before it has changed anything but the
progress. -/
theorem perform_of_closed (missing : session.stream handle = .error fault)
    (needs : action.Needs session handle) :
    ∃ progress, runFrom (perform action) (session, host) =
      (.error (.fault fault), { session with progress }, host) := by
  cases action with
  | close =>
      cases needs
      exact ⟨session.progress, quietly_of_error (map_eq_error.mpr (map_eq_error.mpr missing))⟩
  | addFilter | clearFilter | setContentTest | clearContentTest | setClock | clearClock =>
      cases needs
      exact ⟨session.progress, quietly_of_error (updateStream_of_closed missing)⟩
  | addHook | addCollection =>
      cases needs
      exact ⟨session.progress, quietly_of_error (map_eq_error.mpr missing)⟩
  | load =>
      cases needs
      exact ⟨0, runFrom_bind_error (load_of_unusable (usableSource_of_closed missing) host)⟩
  | append =>
      cases needs
      obtain ⟨progress, refused⟩ := append_of_closed missing
      exact ⟨progress, runFrom_bind_error refused⟩
  | refilter =>
      cases needs
      exact ⟨session.progress,
        answering_of_error (map_eq_error.mpr (idFilters_of_closed missing))⟩
  | refilterAll =>
      exact ⟨session.progress, answering_of_error (refilterAll_of_closed missing needs.1 needs.2)⟩
  | recordAt =>
      cases needs
      exact ⟨session.progress,
        reading_of_error (recordAt_of_unusable (usableSource_of_closed missing))⟩
  | pidOf =>
      obtain ⟨rfl, touched⟩ := needs
      exact ⟨session.progress,
        reading_of_error (pidOf_of_unusable (usableSource_of_closed missing) touched)⟩
  | eventIdOf =>
      obtain ⟨rfl, touched⟩ := needs
      exact ⟨session.progress,
        reading_of_error (eventIdOf_of_unusable (usableSource_of_closed missing) touched)⟩
  | entryLine =>
      cases needs
      exact ⟨session.progress,
        reading_of_error (entryLine_of_unusable (usableSource_of_closed missing))⟩
  | _ => cases needs

theorem query_of_unregistered {store : CollectionStore K} {key : CollectionSpec K}
    {entries : List Entry} {ask : Collection K → Option Nat} (unregistered : key ∉ store.keys) :
    store.query key entries ask = .error .notRegistered := by
  rw [CollectionStore.query, CollectionStore.find?_eq_none_iff.mpr unregistered]

theorem Anchored.perform_of_asks (anchored : session.Anchored) (closed : handle ∉ session.handles)
    (asks : action.Asks handle) :
    runFrom (perform action) (session, host) =
      (.error (.fault .notRegistered), session, host) := by
  have unregistered {key : CollectionSpec K} (named : key.stream = handle) :
      key ∉ session.collections.keys := by
    intro member
    exact closed (named ▸ anchored.collections key member)
  cases action with
  | removeCollection =>
      exact quietly_of_error (map_eq_error.mpr
        (CollectionStore.remove_of_unregistered (unregistered asks)))
  | resetCollection =>
      exact quietly_of_error (map_eq_error.mpr
        (CollectionStore.reset_of_unregistered (unregistered asks)))
  | firstFrom | lastUpTo =>
      exact quietly_of_error (map_eq_error.mpr (map_eq_error.mpr
        (query_of_unregistered (unregistered asks))))
  | _ => cases asks

/-- The session refuses the handle: queries and actions that need the stream name it as not open, and
collections keyed to it are not registered. -/
structure Refuses (session : Session S H K) (handle : Handle) : Prop where
  stream : session.stream handle = .error (.notOpen handle)
  filterIds : ∀ subject side, session.filterIds handle subject side = .error (.notOpen handle)
  hasFilters : session.hasFilters handle = .error (.notOpen handle)
  tasks : session.tasks handle = .error (.notOpen handle)
  eventName : ∀ eventId, session.eventName handle eventId = .error (.notOpen handle)
  taskName : ∀ pid, session.taskName handle pid = .error (.notOpen handle)
  needed : ∀ (host : σ) (action : Action S H K), action.Needs session handle →
    ∃ progress, runFrom (perform action) (session, host) =
      (.error (.fault (.notOpen handle)), { session with progress }, host)
  asked : ∀ (host : σ) (action : Action S H K), action.Asks handle →
    runFrom (perform action) (session, host) = (.error (.fault .notRegistered), session, host)

theorem Anchored.refuses (anchored : session.Anchored) (sound : session.Sound)
    (closed : handle ∉ session.handles) : session.Refuses handle := by
  have missing : session.stream handle = .error (.notOpen handle) := by
    cases found : session.streams.find? handle with
    | none => rw [Session.stream, Registry.get, found]
    | some stream => exact (closed (sound.coherent.mem_handles.mpr ⟨stream, found⟩)).elim
  have unnamed := usableSource_of_closed missing
  exact {
    stream := missing
    filterIds := fun _ _ => map_eq_error.mpr missing
    hasFilters := map_eq_error.mpr missing
    tasks := map_eq_error.mpr missing
    eventName := fun _ => map_eq_error.mpr unnamed
    taskName := fun _ => map_eq_error.mpr unnamed
    needed := fun _ _ => perform_of_closed missing
    asked := fun _ _ => anchored.perform_of_asks closed }

end

end Session

end KernelTrace
