import KernelTrace.Proofs.Failures
import KernelTrace.Proofs.Handles
import KernelTrace.Proofs.Stores

namespace KernelTrace

variable {S H K σ : Type}

namespace Registry

variable {registry after : Registry S} {handle other : Handle} {stream : Stream S} {limit : Nat}
  {opened : List (Handle × Stream S)} {closed : List Handle}

theorem Coherent.handles_erase (coherent : registry.Coherent)
    (erased : registry.erase handle = .ok (stream, after)) :
    after.handles = registry.handles.filter (· ≠ handle) := by
  have afterwards := coherent.erase erased
  refine List.Perm.eq_of_pairwise ?_ afterwards.handles_ascending
    (coherent.handles_ascending.sublist List.filter_sublist) ?_
  · intro a b _ _ below above
    exact absurd (UInt16.lt_trans below above) (UInt16.lt_irrefl _)
  · rw [List.perm_ext_iff_of_nodup afterwards.handles_nodup (coherent.handles_nodup.filter _)]
    intro other
    rw [List.mem_filter, afterwards.mem_handles, coherent.mem_handles, find?_erase erased]
    by_cases same : other = handle <;> simp [same]

variable [RecordSource S]

/-- Streams are opened and changed. None is closed, and sources are only read. -/
inductive Tends : Registry S → Registry S → Prop
  | same {registry : Registry S} : Tends registry registry
  | inserted {registry after : Registry S} {name : String} {source : S} {handle : Handle} :
      registry.insert name source = .ok (handle, after) → Tends registry after
  | changed {registry : Registry S} {handle : Handle} {change : Stream S → Stream S} :
      (∀ stream, (change stream).handle = stream.handle) →
      (∀ stream, registry.find? handle = some stream →
        Used stream.source (change stream).source) →
      Tends registry (registry.modify handle change)
  | changedAll {registry : Registry S} {change : Stream S → Stream S} :
      (∀ stream, (change stream).handle = stream.handle) →
      (∀ stream, (change stream).source = stream.source) →
      Tends registry (registry.mapStreams change)

theorem Tends.stays (tends : Tends registry after) (found : registry.find? handle = some stream) :
    ∃ later, after.find? handle = some later ∧ Used stream.source later.source := by
  cases tends with
  | same => exact ⟨stream, found, .unread⟩
  | @inserted _ _ _ fresh inserted =>
      have differ : handle ≠ fresh := by
        intro same
        rw [same, find?_before_insert inserted] at found
        cases found
      exact ⟨stream, by rw [find?_insert inserted, if_neg differ, found], .unread⟩
  | @changed changed change _ used =>
      by_cases same : handle = changed
      · subst same
        exact ⟨change stream, by rw [find?_modify, found]; rfl, used stream found⟩
      · exact ⟨stream, by rw [find?_modify_of_ne same, found], .unread⟩
  | @changedAll change _ same =>
      refine ⟨change stream, by rw [find?_mapStreams, found]; rfl, ?_⟩
      rw [same]
      exact .unread

theorem Tends.history (tends : Tends registry after)
    (history : History limit registry opened closed) :
    ∃ opened, History limit after opened closed := by
  cases tends with
  | same => exact ⟨_, history⟩
  | inserted inserted => exact ⟨_, .inserted history inserted⟩
  | changed keeps _ => exact ⟨_, .changed history keeps⟩
  | changedAll keeps _ => exact ⟨_, .changedAll history keeps⟩

end Registry

namespace CollectionStore

variable {store after : CollectionStore K}

theorem Thins.keys_subset (thins : store.Thins after) : after.keys ⊆ store.keys := by
  intro key member
  obtain ⟨collection, present, rfl⟩ := List.mem_map.mp member
  obtain ⟨old, before, same⟩ := thins collection present
  have named : collection.key = old.key := by rcases same with rfl | rfl <;> rfl
  rw [named]
  exact List.mem_map_of_mem before

theorem mem_keys_add [DecidableEq K] [Condition K] {key other : CollectionSpec K}
    {entries : List Entry} :
    other ∈ (store.add key entries).keys ↔ other ∈ store.keys ∨ other = key := by
  by_cases registered : key ∈ store.keys
  · rw [add_of_registered registered]
    grind
  · simp [add_of_unregistered registered, keys, Collection.build]

end CollectionStore

def Action.Spares (action : Action S H K) (handle : Handle) : Prop :=
  action ≠ .close handle ∧ action ≠ .closeAll

namespace Session

variable {session after : Session S H K} {handle : Handle}

structure Anchored (session : Session S H K) : Prop where
  collections : ∀ key ∈ session.collections.keys, key.stream ∈ session.handles
  hooks : ∀ hook ∈ session.hooks.hooks, hook.stream ∈ session.handles

theorem Anchored.empty (anchored : session.Anchored) (none : session.handles = []) :
    session.collections.collections = [] ∧ session.hooks.hooks = [] := by
  constructor
  · apply List.eq_nil_iff_forall_not_mem.mpr
    intro collection member
    have held := anchored.collections collection.key (List.mem_map_of_mem member)
    rw [none] at held
    cases held
  · apply List.eq_nil_iff_forall_not_mem.mpr
    intro hook member
    have held := anchored.hooks hook member
    rw [none] at held
    cases held

/-- What closing this stream makes of a session. -/
structure ClosesOff (session : Session S H K) (handle : Handle) (after : Session S H K) :
    Prop where
  gone : after.stream handle = .error (.notOpen handle)
  others : ∀ other, other ≠ handle → after.stream other = session.stream other
  handles : after.handles = session.handles.filter (· ≠ handle)
  collections : after.collections.collections =
    session.collections.collections.filter (·.key.stream ≠ handle)
  hooks : after.hooks.hooks = session.hooks.hooks.filter (·.stream ≠ handle)
  settings : after.settings = session.settings
  progress : after.progress = session.progress

theorem close_eq_ok (closed : session.close handle = .ok after) :
    ∃ stream streams, session.streams.erase handle = .ok (stream, streams) ∧
      after = { session with
        streams
        collections := session.collections.removeStream handle
        hooks := session.hooks.removeStream handle } := by
  obtain ⟨⟨stream, streams⟩, erased, rfl⟩ := map_eq_ok.mp closed
  exact ⟨stream, streams, erased, rfl⟩

theorem Sound.closesOff (sound : session.Sound) (closed : session.close handle = .ok after) :
    session.ClosesOff handle after := by
  obtain ⟨stream, streams, erased, rfl⟩ := close_eq_ok closed
  exact {
    gone := by simp [Session.stream, Registry.get_erase erased]
    others := fun other differ => by simp [Session.stream, Registry.get_erase erased, differ]
    handles := sound.coherent.handles_erase erased
    collections := rfl
    hooks := rfl
    settings := rfl
    progress := rfl }

theorem Sound.close_eq_ok_iff (sound : session.Sound) :
    (∃ after, session.close handle = .ok after) ↔ handle ∈ session.handles := by
  constructor
  · intro ⟨after, closed⟩
    obtain ⟨stream, _, erased, _⟩ := close_eq_ok closed
    obtain ⟨_, got, _⟩ := map_eq_ok.mp erased
    exact sound.coherent.mem_handles.mpr ⟨_, Registry.get_eq_ok.mp got⟩
  · intro member
    obtain ⟨stream, found⟩ := sound.opened_of_mem member
    obtain ⟨after, closed, _⟩ := close_of_open found
    exact ⟨after, closed⟩

theorem ClosesOff.anchored (closes : session.ClosesOff handle after) (anchored : session.Anchored) :
    after.Anchored where
  collections key member := by
    rw [CollectionStore.keys, closes.collections] at member
    obtain ⟨collection, present, rfl⟩ := List.mem_map.mp member
    obtain ⟨before, other⟩ := List.mem_filter.mp present
    rw [closes.handles]
    exact List.mem_filter.mpr ⟨anchored.collections _ (List.mem_map_of_mem before), other⟩
  hooks hook member := by
    rw [closes.hooks] at member
    obtain ⟨before, other⟩ := List.mem_filter.mp member
    rw [closes.handles]
    exact List.mem_filter.mpr ⟨anchored.hooks hook before, other⟩

theorem Sound.handles_of_foldlM {handles : List Handle} (sound : session.Sound)
    (closed : handles.foldlM close session = .ok after) :
    after.handles = session.handles.filter (· ∉ handles) := by
  induction handles generalizing session with
  | nil =>
      cases closed
      simp
  | cons handle handles ih =>
      rw [List.foldlM_cons] at closed
      obtain ⟨middle, first, rest⟩ := bind_eq_ok.mp closed
      obtain ⟨_, _, erased, same⟩ := close_eq_ok first
      have soundly : middle.Sound := by
        subst same
        exact ⟨sound.coherent.erase erased, sound.maskClear⟩
      rw [ih soundly rest, (sound.closesOff first).handles, List.filter_filter]
      simp [Bool.and_comm]

variable [RecordSource S]

def Reads (session : Session S H K) (handle : Handle) (source : S) : Prop :=
  ∃ stream, session.stream handle = .ok stream ∧ Used source stream.source

variable [Plugin H σ] [DecidableEq K] [Condition K] {action : Action S H K}

theorem Moves.tends (move : Moves action session after) :
    (∃ handle, (action = .close handle ∨ action = .closeAll) ∧
      session.close handle = .ok after) ∨
    session.streams.Tends after.streams := by
  cases move with
  | masked | hooked | unhooked | thinned | built | asked | started => exact .inr .same
  | opened inserted => exact .inr (.inserted inserted)
  | closed closes closed => exact .inl ⟨_, closes, closed⟩
  | tuned retunes =>
      refine .inr (.changed (fun stream => ?_) fun stream _ => ?_)
      · obtain ⟨filters, clock, same⟩ := retunes stream
        rw [same]
      · obtain ⟨filters, clock, same⟩ := retunes stream
        rw [same]
        exact .unread
  | unfiltered => exact .inr (.changedAll (fun _ => rfl) fun _ => rfl)
  | settled opened usable =>
      obtain ⟨change, writes, same⟩ := settle_streams session _ _ _
      rw [same]
      refine .inr (.changed (fun stream => ?_) fun found present => ?_)
      · obtain ⟨poisoned, tasks, same⟩ := writes stream
        rw [same]
      · obtain ⟨poisoned, tasks, same⟩ := writes found
        cases present.symm.trans (Registry.get_eq_ok.mp opened)
        rw [same, ← (Stream.usable_eq_ok.mp usable).2]
        exact .loaded .unread
  | reread usable =>
      refine .inr (.changed (fun _ => rfl) fun stream present => ?_)
      obtain ⟨found, opened, _, same⟩ := usableSource_eq_ok.mp usable
      cases present.symm.trans (Registry.get_eq_ok.mp opened)
      rw [← same]
      exact .reread .unread

theorem Moves.key_of_mem (move : Moves action session after) {key : CollectionSpec K}
    (member : key ∈ after.collections.keys) :
    key ∈ session.collections.keys ∨ ∃ stream, session.stream key.stream = .ok stream := by
  cases move with
  | masked | opened | tuned | unfiltered | hooked | unhooked | started | reread => exact .inl member
  | closed _ closed =>
      obtain ⟨_, _, _, rfl⟩ := close_eq_ok closed
      exact .inl ((CollectionStore.thins_filter _ _).keys_subset member)
  | thinned thins => exact .inl (thins.keys_subset member)
  | built _ opened =>
      rcases CollectionStore.mem_keys_add.mp member with before | rfl
      · exact .inl before
      · exact .inr ⟨_, opened⟩
  | asked _ _ _ =>
      rw [CollectionStore.keys_put] at member
      exact .inl member
  | settled => exact .inl ((settle_thins session _ _ _).keys_subset member)

theorem Moves.hook_of_mem (move : Moves action session after) {hook : Hook H}
    (member : hook ∈ after.hooks.hooks) :
    hook ∈ session.hooks.hooks ∨ ∃ stream, session.stream hook.stream = .ok stream := by
  cases move with
  | masked | opened | tuned | unfiltered | thinned | built | asked | started | reread =>
      exact .inl member
  | closed _ closed =>
      obtain ⟨_, _, _, rfl⟩ := close_eq_ok closed
      exact .inl (List.mem_filter.mp member).1
  | hooked _ opened =>
      rcases List.mem_append.mp member with before | added
      · exact .inl before
      · rw [List.mem_singleton.mp added]
        exact .inr ⟨_, opened⟩
  | unhooked fewer => exact .inl (fewer.subset member)
  | settled =>
      rw [settle_hooks] at member
      exact .inl member

theorem Moves.anchored (move : Moves action session after) (sound : session.Sound)
    (anchored : session.Anchored) : after.Anchored := by
  rcases move.tends with ⟨handle, _, closed⟩ | tends
  · exact (sound.closesOff closed).anchored anchored
  · have stay : ∀ handle ∈ session.handles, handle ∈ after.handles := by
      intro handle member
      obtain ⟨stream, found⟩ := sound.coherent.mem_handles.mp member
      obtain ⟨later, there, _⟩ := tends.stays found
      exact (move.sound sound).coherent.mem_handles.mpr ⟨later, there⟩
    have open_of_found {handle : Handle} (found : ∃ stream, session.stream handle = .ok stream) :
        handle ∈ session.handles := by
      obtain ⟨stream, found⟩ := found
      exact sound.coherent.mem_handles.mpr ⟨stream, Registry.get_eq_ok.mp found⟩
    refine ⟨fun key member => stay _ ?_, fun hook member => stay _ ?_⟩
    · exact (move.key_of_mem member).elim (anchored.collections key) open_of_found
    · exact (move.hook_of_mem member).elim (anchored.hooks hook) open_of_found

theorem anchored_of_moves (moves : Relation.ReflTransGen (Moves action) session after)
    (sound : session.Sound) (anchored : session.Anchored) : after.Anchored := by
  induction moves with
  | refl => exact anchored
  | tail moves move ih => exact move.anchored (sound_of_moves moves sound) ih

theorem Moves.reads {source : S} (move : Moves action session after) (sound : session.Sound)
    (spares : action.Spares handle) (reads : session.Reads handle source) :
    after.Reads handle source := by
  obtain ⟨stream, found, used⟩ := reads
  rcases move.tends with ⟨other, closes, closed⟩ | tends
  · have differ : handle ≠ other := by
      rintro rfl
      exact closes.elim spares.1 spares.2
    refine ⟨stream, ?_, used⟩
    rw [(sound.closesOff closed).others handle differ, found]
  · obtain ⟨later, there, reused⟩ := tends.stays (Registry.get_eq_ok.mp found)
    exact ⟨later, Registry.get_eq_ok.mpr there, used.trans reused⟩

theorem reads_of_moves {source : S} (moves : Relation.ReflTransGen (Moves action) session after)
    (sound : session.Sound) (spares : action.Spares handle) (reads : session.Reads handle source) :
    after.Reads handle source := by
  induction moves with
  | refl => exact reads
  | tail moves move ih => exact move.reads (sound_of_moves moves sound) spares ih

theorem Reachable.anchored [DecidableEq H] (reachable : Reachable session) :
    session.Anchored := by
  induction reachable with
  | created created =>
      obtain ⟨_, rfl⟩ := create_eq_ok created
      exact ⟨List.forall_mem_nil _, List.forall_mem_nil _⟩
  | acted action reachable ih =>
      exact (anchored_of_moves (follows_perform action _) reachable.sound ih)

end Session
end KernelTrace
