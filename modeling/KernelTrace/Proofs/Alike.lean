import KernelTrace.Proofs.Loads
import KernelTrace.Proofs.Reloading

namespace KernelTrace.Session

variable {S H K σ : Type} {session middle later : Session S H K} {handle : Handle}
  {stream : Stream S}

theorem stream_modify (handle : Handle) (change : Stream S → Stream S) :
    (session.modifyStream handle change).stream handle = (session.stream handle).map change := by
  simp only [Session.stream, modifyStream, Registry.get, Registry.find?_modify]
  cases session.streams.find? handle <;> rfl

theorem stream_modify_of_ne {other : Handle} {change : Stream S → Stream S}
    (differ : other ≠ handle) :
    (session.modifyStream handle change).stream other = session.stream other := by
  simp only [Session.stream, modifyStream, Registry.get, Registry.find?_modify_of_ne differ]

theorem modifyStream_of_closed {change : Stream S → Stream S} {fault : Fault}
    (missing : session.stream handle = .error fault) :
    session.modifyStream handle change = session := by
  have absent : session.streams.find? handle = none := by
    cases found : session.streams.find? handle with
    | none => rfl
    | some stream => cases missing.symm.trans (Registry.get_eq_ok.mpr found)
  rw [modifyStream, Registry.modify, absent]

theorem modifyStream_of_same {change : Stream S → Stream S}
    (found : session.stream handle = .ok stream) (same : change stream = stream) :
    session.modifyStream handle change = session := by
  have present := Registry.get_eq_ok.mp found
  obtain ⟨bound, here⟩ := List.getElem?_eq_some_iff.mp (Registry.find?_eq_some.mp present)
  rw [modifyStream, Registry.modify, present]
  simp only [same, ← here, List.set_getElem_self]

variable [RecordSource S]

/-- The same hooks and the same streams, but for their filters and tasks. The sources are those of
the first session after some reading. -/
structure Alike (session later : Session S H K) : Prop where
  hooks : later.hooks = session.hooks
  handles : later.handles = session.handles
  opened : ∀ handle stream, session.stream handle = .ok stream →
    ∃ source tasks filters, Used stream.source source ∧
      later.stream handle = .ok { stream with source, tasks, filters }
  closed : ∀ handle fault, session.stream handle = .error fault →
    later.stream handle = .error fault

theorem Alike.refl (session : Session S H K) : Alike session session where
  hooks := rfl
  handles := rfl
  opened _ stream found := ⟨stream.source, stream.tasks, stream.filters, .unread, found⟩
  closed _ _ missing := missing

theorem Alike.trans (first : Alike session middle) (second : Alike middle later) :
    Alike session later where
  hooks := second.hooks.trans first.hooks
  handles := second.handles.trans first.handles
  opened handle stream found := by
    obtain ⟨source, tasks, filters, used, here⟩ := first.opened handle stream found
    obtain ⟨last, others, left, reused, there⟩ := second.opened handle _ here
    exact ⟨last, others, left, used.trans reused, there⟩
  closed handle fault missing := second.closed handle fault (first.closed handle fault missing)

theorem alike_of_streams (hooks : later.hooks = session.hooks)
    (streams : later.streams = session.streams) : Alike session later := by
  have same : later.stream = session.stream := by
    funext handle
    rw [Session.stream, Session.stream, streams]
  refine ⟨hooks, congrArg Registry.handles streams, ?_, ?_⟩
  · intro handle stream found
    rw [same]
    exact ⟨stream.source, stream.tasks, stream.filters, .unread, found⟩
  · intro handle fault missing
    rw [same]
    exact missing

structure Unchanged (session later : Session S H K) : Prop extends Alike session later where
  settings : later.settings = session.settings
  filters : ∀ handle before after, session.stream handle = .ok before →
    later.stream handle = .ok after → after.filters = before.filters

theorem unchanged_of_streams (hooks : later.hooks = session.hooks)
    (settings : later.settings = session.settings) (streams : later.streams = session.streams) :
    Unchanged session later := by
  refine ⟨alike_of_streams hooks streams, settings, ?_⟩
  intro handle before after found again
  rw [Session.stream, streams] at again
  cases found.symm.trans again
  rfl

theorem Unchanged.refl (session : Session S H K) : Unchanged session session :=
  unchanged_of_streams rfl rfl rfl

theorem Unchanged.trans (first : Unchanged session middle) (second : Unchanged middle later) :
    Unchanged session later where
  toAlike := first.toAlike.trans second.toAlike
  settings := second.settings.trans first.settings
  filters handle before after found again := by
    obtain ⟨source, tasks, filters, _, here⟩ := first.opened handle before found
    have kept : filters = before.filters := first.filters handle before _ found here
    exact (second.filters handle _ after here again).trans kept

theorem alike_modify {change : Stream S → Stream S}
    (keeps : ∀ stream, (change stream).handle = stream.handle)
    (writes : ∀ stream, session.stream handle = .ok stream → ∃ source tasks filters,
      Used stream.source source ∧ change stream = { stream with source, tasks, filters }) :
    Alike session (session.modifyStream handle change) := by
  refine ⟨rfl, Registry.handles_modify keeps, ?_, ?_⟩
  · intro other stream found
    by_cases same : other = handle
    · subst same
      obtain ⟨source, tasks, filters, used, written⟩ := writes stream found
      refine ⟨source, tasks, filters, used, ?_⟩
      rw [stream_modify, found, ← written]
      rfl
    · rw [stream_modify_of_ne same]
      exact (Alike.refl session).opened other stream found
  · intro other fault missing
    by_cases same : other = handle
    · subst same
      rw [stream_modify, missing]
      rfl
    · rw [stream_modify_of_ne same]
      exact missing

theorem unchanged_modify {change : Stream S → Stream S}
    (keeps : ∀ stream, (change stream).handle = stream.handle ∧
      (change stream).filters = stream.filters)
    (writes : ∀ stream, session.stream handle = .ok stream → ∃ source tasks filters,
      Used stream.source source ∧ change stream = { stream with source, tasks, filters }) :
    Unchanged session (session.modifyStream handle change) := by
  refine ⟨alike_modify (fun stream => (keeps stream).1) writes, rfl, ?_⟩
  intro other before after found again
  by_cases same : other = handle
  · subst same
    rw [stream_modify, found] at again
    cases again
    exact (keeps before).2
  · rw [stream_modify_of_ne same] at again
    cases found.symm.trans again
    rfl

theorem Unchanged.idFilters (unchanged : Unchanged session later) {filters : Filters}
    (allowed : session.idFilters handle = .ok filters) : later.idFilters handle = .ok filters := by
  obtain ⟨stream, found, unread, rfl⟩ := idFilters_eq_ok.mp allowed
  obtain ⟨source, tasks, left, _, there⟩ := unchanged.opened handle stream found
  have kept : left = stream.filters := unchanged.filters handle stream _ found there
  subst kept
  exact idFilters_eq_ok.mpr ⟨_, there, unread, rfl⟩

variable [Plugin H σ] {host : σ} {loaded : LoadResult}

theorem readStream_leaves (found : session.stream handle = .ok stream)
    (unspoilt : stream.poisoned = false)
    (outcome : ((session.loader stream).run stream.source host).1.outcome = .ok loaded) :
    ∃ after, runFrom (readStream handle) (session, host) = (.ok loaded.entries, after) ∧
      Unchanged session after.1 ∧
      after.1.progress =
        session.progress + ((session.loader stream).run stream.source host).1.completed := by
  have unchanged : Unchanged session (session.modifyStream handle fun stream' =>
      { stream' with
        source := ((session.loader stream).run stream.source host).2.1
        tasks := stream'.tasks.union loaded.tasks }) := by
    apply unchanged_modify
    · exact fun _ => ⟨rfl, rfl⟩
    · intro other same
      rw [found] at same
      cases same
      exact ⟨_, _, stream.filters, .loaded .unread, rfl⟩
  have settled := settle_ok session handle
    ((session.loader stream).run stream.source host).2.1 outcome
  refine ⟨_, readStream_of_ok found unspoilt outcome, ?_, settle_progress _ _ _ _⟩
  refine unchanged.trans (unchanged_of_streams ?_ ?_ settled)
  · exact settle_hooks session handle _ _
  · exact settle_settings session handle _ _

theorem run_again (functions : ∀ hook ∈ session.hooks.hooks, Plugin.IsFunction hook.plugin)
    (unchanged : Unchanged session later) (found : session.stream handle = .ok stream)
    (replays : Replays stream.source) :
    ∃ again, later.stream handle = .ok again ∧ again.poisoned = stream.poisoned ∧
      ∀ host other : σ, ((later.loader again).run again.source other).1 =
        ((session.loader stream).run stream.source host).1 := by
  obtain ⟨source, tasks, filters, used, there⟩ := unchanged.opened handle stream found
  have kept : filters = stream.filters := unchanged.filters handle stream _ found there
  have loader : later.loader { stream with source, tasks, filters } = session.loader stream := by
    simp only [Session.loader, unchanged.hooks, unchanged.settings, kept]
  refine ⟨_, there, rfl, fun host other => ?_⟩
  rw [loader]
  exact Loader.run_is_function functions (replays source used) host other

/-- Under filters of which none reads contents, a load that once succeeded gives the same entries
with their visibility recomputed. -/
theorem readStream_retuned (steady : session.hooks.IsSteady) (sound : session.Sound)
    (alike : Alike session later) (found : session.stream handle = .ok stream)
    (unspoilt : stream.poisoned = false) (replays : Replays stream.source)
    (noneLost : ∀ lane ∈ (readAll stream.source).1.lanes, Loader.NoneLost lane)
    (outcome : ((session.loader stream).run stream.source host).1.outcome = .ok loaded)
    {filters : Filters} (allowed : later.idFilters handle = .ok filters) (other : σ) :
    ∃ after, runFrom (readStream handle) (later, other) =
        (.ok (loaded.entries.map (filters.reapply later.settings.filterMask)), after) ∧
      Unchanged later after.1 := by
  obtain ⟨source, tasks, left, used, there⟩ := alike.opened handle stream found
  obtain ⟨same, again, unread, rfl⟩ := idFilters_eq_ok.mp allowed
  rw [there] at again
  cases again
  have loader : later.loader { stream with source, tasks, filters := left } =
      (session.loader stream).retune left later.settings.filterMask := by
    simp only [Session.loader, Loader.retune, alike.hooks]
  have plain : left.content = none :=
    Option.not_isSome_iff_eq_none.mp (by simpa [Filters.hasContent] using unread)
  have clear : (session.loader stream).mask &&& View.untouched = 0 := sound.maskClear
  obtain ⟨last, made, entries⟩ :=
    Loader.run_retune steady clear plain (replays source used) noneLost outcome other
  rw [← loader] at made
  obtain ⟨after, read, unchanged, _⟩ := readStream_leaves there unspoilt made
  rw [entries] at read
  exact ⟨after, read, unchanged⟩

end KernelTrace.Session
