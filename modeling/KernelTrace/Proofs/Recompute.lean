import KernelTrace.Proofs.LoadAll

namespace KernelTrace

structure SameUnfiltered (array list : List Entry) : Prop where
  same : list.map Entry.unfiltered = array.map Entry.unfiltered
  whole : ∀ entry ∈ list, entry.isLost → entry.visible = View.all

namespace SameUnfiltered

variable {array list : List Entry} {mask : UInt8}

theorem streams (same : SameUnfiltered array list) :
    list.map Entry.stream = array.map Entry.stream :=
  map_stream_of_unfiltered same.same

theorem reapply (same : SameUnfiltered array list) {change : Entry → Entry}
    (clear : mask &&& View.untouched = 0)
    (each : ∀ entry, change entry = entry ∨ ∃ filters : Filters,
      change entry = filters.reapply mask entry) :
    SameUnfiltered array (list.map change) := by
  constructor
  · rw [← same.same]
    apply map_unfiltered_of_blind
    intro entry
    rcases each entry with changed | ⟨filters, changed⟩
    · rw [changed]
    · rw [changed, filters.unfiltered_reapply clear]
  · intro new member lost
    obtain ⟨entry, present, rfl⟩ := List.mem_map.mp member
    rcases each entry with changed | ⟨filters, changed⟩
    · rw [changed] at lost ⊢
      exact same.whole entry present lost
    · rw [changed] at lost ⊢
      rw [Filters.reapply_isLost] at lost
      rw [Filters.reapply, if_pos lost]
      exact same.whole entry present lost

theorem unfiltered (same : SameUnfiltered array list) :
    SameUnfiltered array (list.map Entry.unfiltered) := by
  constructor
  · rw [← same.same]
    exact map_unfiltered_of_blind Entry.unfiltered_unfiltered
  · intro new member lost
    obtain ⟨entry, present, rfl⟩ := List.mem_map.mp member
    have visible := same.whole entry present lost
    rw [Entry.unfiltered, visible]
    rfl

theorem map_reapply_unfiltered {entries : List Entry}
    (whole : ∀ entry ∈ entries, entry.isLost → entry.visible = View.all)
    (filters : Handle → Filters) (mask : UInt8) :
    ((entries.map Entry.unfiltered).map fun entry => (filters entry.stream).reapply mask entry) =
      entries.map fun entry => (filters entry.stream).reapply mask entry := by
  rw [List.map_map]
  apply List.map_congr_left
  intro entry member
  exact (filters entry.stream).reapply_unfiltered mask (whole entry member)

theorem recompute (same : SameUnfiltered array list)
    (whole : ∀ entry ∈ array, entry.isLost → entry.visible = View.all)
    (filters : Handle → Filters) (mask : UInt8) :
    (list.map fun entry => (filters entry.stream).reapply mask entry) =
      array.map fun entry => (filters entry.stream).reapply mask entry := by
  calc
    (list.map fun entry => (filters entry.stream).reapply mask entry) =
        (list.map Entry.unfiltered).map fun entry =>
          (filters entry.stream).reapply mask entry :=
      (map_reapply_unfiltered same.whole filters mask).symm
    _ = (array.map Entry.unfiltered).map fun entry =>
          (filters entry.stream).reapply mask entry := by
      rw [same.same]
    _ = array.map fun entry => (filters entry.stream).reapply mask entry :=
      map_reapply_unfiltered whole filters mask

end SameUnfiltered

namespace Session

variable {S H K σ : Type} {session later after : Session S H K} {array list : List Entry}

/-- What changes of filters and of the filter mask, and recomputes on the way, make of a session and
of a list loaded from it. -/
inductive Retuned (session : Session S H K) (array : List Entry) :
    Session S H K → List Entry → Prop
  | loaded : Retuned session array session array
  | masked {later after : Session S H K} {list : List Entry} {filterMask : UInt8} :
      Retuned session array later list → later.setFilterMask filterMask = .ok after →
      Retuned session array after list
  | filtered {later after : Session S H K} {list : List Entry} {handle : Handle} {rule : IdRule} :
      Retuned session array later list → later.addFilter handle rule = .ok after →
      Retuned session array after list
  | unfiltered {later after : Session S H K} {list : List Entry} {handle : Handle}
      {subject : Subject} {side : Side} :
      Retuned session array later list → later.clearFilter handle subject side = .ok after →
      Retuned session array after list
  | tested {later after : Session S H K} {list : List Entry} {handle : Handle}
      {test : ContentTest} :
      Retuned session array later list → later.setContentTest handle test = .ok after →
      Retuned session array after list
  | untested {later after : Session S H K} {list : List Entry} {handle : Handle} :
      Retuned session array later list → later.clearContentTest handle = .ok after →
      Retuned session array after list
  | refiltered {later after : Session S H K} {list refiltered : List Entry} {handle : Handle} :
      Retuned session array later list → later.refilter handle list = .ok (refiltered, after) →
      Retuned session array after refiltered
  | refilteredAll {later after : Session S H K} {list refiltered : List Entry} :
      Retuned session array later list → later.refilterAll list = .ok (refiltered, after) →
      Retuned session array after refiltered
  | cleared {later : Session S H K} {list : List Entry} :
      Retuned session array later list →
      Retuned session array (later.clearFilters list).2 (later.clearFilters list).1

variable {handle : Handle}

theorem sound_of_updateStream {change : Stream S → Stream S} (sound : session.Sound)
    (retunes : ∀ stream, ∃ filters, change stream = { stream with filters })
    (updated : session.updateStream handle change = .ok after) : after.Sound := by
  obtain ⟨stream, found, rfl⟩ := map_eq_ok.mp updated
  refine ⟨sound.coherent.modify ?_, sound.maskClear⟩
  intro other
  obtain ⟨filters, same⟩ := retunes other
  rw [same]

theorem stream_clearFilters (entries : List Entry) (handle : Handle) :
    (session.clearFilters entries).2.stream handle =
      (session.stream handle).map fun stream => { stream with filters := {} } := by
  simp only [clearFilters, Session.stream, Registry.get, Registry.find?_mapStreams]
  cases session.streams.find? handle <;> rfl

variable [RecordSource S]

theorem alike_of_updateStream {change : Stream S → Stream S}
    (retunes : ∀ stream, ∃ filters, change stream = { stream with filters })
    (updated : session.updateStream handle change = .ok after) : Alike session after := by
  obtain ⟨stream, found, rfl⟩ := map_eq_ok.mp updated
  apply alike_modify
  · intro other
    obtain ⟨filters, same⟩ := retunes other
    rw [same]
  · intro other _
    obtain ⟨filters, same⟩ := retunes other
    exact ⟨other.source, other.tasks, filters, .unread, same⟩

theorem alike_clearFilters (session : Session S H K) (entries : List Entry) :
    Alike session (session.clearFilters entries).2 := by
  refine ⟨rfl, Registry.handles_mapStreams fun _ => rfl, ?_, ?_⟩
  · intro handle stream opened
    rw [stream_clearFilters, opened]
    exact ⟨stream.source, stream.tasks, {}, .unread, rfl⟩
  · intro handle fault closed
    rw [stream_clearFilters, closed]
    rfl

theorem Retuned.keeps (retuned : Retuned session array later list) (sound : session.Sound)
    (whole : ∀ entry ∈ array, entry.isLost → entry.visible = View.all) :
    later.Sound ∧ Alike session later ∧ SameUnfiltered array list := by
  have tuned : ∀ {later after : Session S H K} {list : List Entry} {handle : Handle}
      {change : Stream S → Stream S},
      (later.Sound ∧ Alike session later ∧ SameUnfiltered array list) →
      (∀ stream, ∃ filters, change stream = { stream with filters }) →
      later.updateStream handle change = .ok after →
      after.Sound ∧ Alike session after ∧ SameUnfiltered array list := by
    intro later after list handle change ⟨sound, alike, same⟩ retunes updated
    exact ⟨sound_of_updateStream sound retunes updated,
      alike.trans (alike_of_updateStream retunes updated), same⟩
  induction retuned with
  | loaded => exact ⟨sound, .refl session, rfl, whole⟩
  | masked _ masked ih =>
      obtain ⟨sound, alike, same⟩ := ih
      obtain ⟨clear, rfl⟩ := setFilterMask_eq_ok masked
      exact ⟨⟨sound.coherent, clear⟩, alike.trans (alike_of_streams rfl rfl), same⟩
  | filtered _ updated ih => exact tuned ih (fun _ => ⟨_, rfl⟩) updated
  | unfiltered _ updated ih => exact tuned ih (fun _ => ⟨_, rfl⟩) updated
  | tested _ updated ih => exact tuned ih (fun _ => ⟨_, rfl⟩) updated
  | untested _ updated ih => exact tuned ih (fun _ => ⟨_, rfl⟩) updated
  | refiltered _ done ih =>
      obtain ⟨sound, alike, same⟩ := ih
      obtain ⟨_, rfl, rfl⟩ := refilter_eq_ok done
      refine ⟨⟨sound.coherent, sound.maskClear⟩, alike.trans (alike_of_streams rfl rfl), ?_⟩
      apply same.reapply sound.maskClear
      intro entry
      split
      · exact .inr ⟨_, rfl⟩
      · exact .inl rfl
  | refilteredAll _ done ih =>
      obtain ⟨sound, alike, same⟩ := ih
      obtain ⟨_, rfl, rfl⟩ := refilterAll_eq_ok done
      refine ⟨⟨sound.coherent, sound.maskClear⟩, alike.trans (alike_of_streams rfl rfl), ?_⟩
      exact same.reapply sound.maskClear fun entry => .inr ⟨_, rfl⟩
  | @cleared later list _ ih =>
      obtain ⟨sound, alike, same⟩ := ih
      exact ⟨⟨sound.coherent.mapStreams fun _ => rfl, sound.maskClear⟩,
        alike.trans (alike_clearFilters later list), same.unfiltered⟩

variable [Plugin H σ] {host : σ} {stream : Stream S} {arrays : Handle → List Entry}

theorem load_retuned (steady : session.hooks.IsSteady) (sound : session.Sound)
    (alike : Alike session later) (found : session.stream handle = .ok stream)
    (replays : Replays stream.source)
    (noneLost : ∀ lane ∈ (readAll stream.source).1.lanes, Loader.NoneLost lane)
    (gives : session.Gives host handle array)
    (allowed : later.idFilters handle = .ok (later.filtersAt handle)) (other : σ) :
    (runFrom (load handle) (later, other)).1 =
      .ok (array.map ((later.filtersAt handle).reapply later.settings.filterMask)) := by
  obtain ⟨stream', loaded, found', unspoilt, outcome, rfl⟩ := gives
  cases found.symm.trans found'
  have started : Alike session later.startProgress := alike.trans (alike_of_streams rfl rfl)
  have still : later.startProgress.idFilters handle = .ok (later.filtersAt handle) := allowed
  obtain ⟨after, read, _⟩ := readStream_retuned steady sound started found unspoilt replays noneLost
    outcome still other
  rw [load_eq, read]
  rfl

theorem loadAll_retuned (steady : session.hooks.IsSteady) (sound : session.Sound)
    (alike : Alike session later)
    (replays : ∀ handle stream, session.stream handle = .ok stream → Replays stream.source)
    (noneLost : ∀ handle stream, session.stream handle = .ok stream →
      ∀ lane ∈ (readAll stream.source).1.lanes, Loader.NoneLost lane)
    (gives : ∀ handle ∈ session.handles, session.Gives host handle (arrays handle))
    (allowed : ∀ handle ∈ session.handles, later.idFilters handle = .ok (later.filtersAt handle))
    (other : σ) :
    (runFrom loadAll (later, other)).1 =
      .ok ((mergeLanes (session.handles.map arrays)).map fun entry =>
        (later.filtersAt entry.stream).reapply later.settings.filterMask entry) := by
  let change := fun entry : Entry =>
    (later.filtersAt entry.stream).reapply later.settings.filterMask entry
  have each : ∀ handle ∈ session.handles, ∀ merged (total : Nat) middle (other : σ),
      Unchanged later middle →
        ∃ after, runFrom (mergeNext merged handle) (middle, other) =
            (.ok (mergePair merged ((arrays handle).map change)), after) ∧
          Unchanged later after.1 := by
    intro handle member merged _ middle other unchanged
    have streams := (gives handle member).streams sound steady.keepsStream
    obtain ⟨stream, loaded, found, unspoilt, outcome, same⟩ := gives handle member
    have again := unchanged.idFilters (allowed handle member)
    obtain ⟨after, read, leaves⟩ := readStream_retuned steady sound
      (alike.trans unchanged.toAlike) found unspoilt (replays handle stream found)
      (noneLost handle stream found) outcome again other
    have changed : loaded.entries.map
        ((later.filtersAt handle).reapply middle.settings.filterMask) =
          (arrays handle).map change := by
      rw [same, unchanged.settings]
      apply List.map_congr_left
      intro entry present
      simp only [change, streams entry present]
    rw [changed] at read
    exact ⟨after, runFrom_bind_ok read, unchanged.trans leaves⟩
  have started : Unchanged later later.startProgress := unchanged_of_streams rfl rfl rfl
  obtain ⟨after, folded, _⟩ := foldlM_gives (fun _ => []) each [] 0 started other
  rw [foldl_mergePair, mergeTwo_nil_left, ← alike.handles] at folded
  rw [loadAll_of_fold folded, mergeLanes_map, List.map_map, alike.handles]
  · rfl
  · exact fun entry => Filters.reapply_ts _ _ entry

theorem Gives.whole (gives : session.Gives host handle array)
    (makesNoMarker : ∀ hook ∈ session.hooks.hooks, Plugin.MakesNoMarker hook.plugin)
    (noneLost : ∀ stream, session.stream handle = .ok stream →
      ∀ lane ∈ (readAll stream.source).1.lanes, Loader.NoneLost lane) :
    ∀ entry ∈ array, entry.isLost → entry.visible = View.all := by
  obtain ⟨stream, loaded, found, _, outcome, rfl⟩ := gives
  exact Loader.whole_of_run makesNoMarker (noneLost stream found) outcome

theorem stream_mem_handles (sound : session.Sound)
    (keepsStream : ∀ hook ∈ session.hooks.hooks, Plugin.Keeps hook.plugin Entry.stream)
    (gives : ∀ handle ∈ session.handles, session.Gives host handle (arrays handle)) :
    ∀ entry ∈ mergeLanes (session.handles.map arrays), entry.stream ∈ session.handles := by
  intro entry member
  obtain ⟨lane, listed, present⟩ := mem_mergeLanes.mp member
  obtain ⟨handle, opened, rfl⟩ := List.mem_map.mp listed
  rw [(gives handle opened).streams sound keepsStream entry present]
  exact opened

theorem load_leaves {state : Session S H K × σ}
    (ran : runFrom (load handle) (session, host) = (.ok array, state)) :
    Unchanged session state.1 := by
  rw [load_eq] at ran
  obtain ⟨stream, loaded, found, unspoilt, outcome, _⟩ := readStream_eq_ok ran
  obtain ⟨after, read, leaves, _⟩ := readStream_leaves found unspoilt outcome
  rw [ran] at read
  cases read
  have started : Unchanged session session.startProgress := unchanged_of_streams rfl rfl rfl
  exact started.trans leaves

variable [DecidableEq K] [Condition K]

theorem refilter_is_reload {state : Session S H K × σ} {refiltered : List Entry}
    (sound : session.Sound) (steady : session.hooks.IsSteady)
    (found : session.stream handle = .ok stream) (replays : Replays stream.source)
    (noneLost : ∀ lane ∈ (readAll stream.source).1.lanes, Loader.NoneLost lane)
    (ran : runFrom (load handle) (session, host) = (.ok array, state))
    (retuned : Retuned state.1 array later list)
    (done : later.refilter handle list = .ok (refiltered, after)) (other : σ) :
    (runFrom (load handle) (after, other)).1 = .ok refiltered := by
  have gives : session.Gives host handle array := gives_of_load (by rw [ran])
  have whole := gives.whole steady.makesNoMarker fun stream' again => by
    cases found.symm.trans again
    exact noneLost
  obtain ⟨_, alike, same⟩ := retuned.keeps (sound_of_step (.load handle) (follows_load handle) sound ran) whole
  obtain ⟨allowed, rfl, rfl⟩ := refilter_eq_ok done
  have streams : ∀ entry ∈ list, entry.stream = handle := by
    intro entry member
    have listed : entry.stream ∈ array.map Entry.stream := by
      rw [← same.streams]
      exact List.mem_map_of_mem member
    obtain ⟨old, present, moved⟩ := List.mem_map.mp listed
    rw [← moved]
    exact gives.streams sound steady.keepsStream old present
  have ready : Alike session
      { later with collections := later.collections.resetStream handle } :=
    ((load_leaves ran).toAlike.trans alike).trans (alike_of_streams rfl rfl)
  rw [load_retuned steady sound ready found replays noneLost gives allowed other]
  have recomputed := same.recompute whole (fun _ => later.filtersAt handle)
    later.settings.filterMask
  refine congrArg Except.ok (recomputed.symm.trans ?_)
  apply List.map_congr_left
  intro entry member
  rw [if_pos (streams entry member)]

theorem refilterAll_is_reload {state : Session S H K × σ} {refiltered : List Entry}
    (sound : session.Sound) (steady : session.hooks.IsSteady)
    (replays : ∀ handle stream, session.stream handle = .ok stream → Replays stream.source)
    (noneLost : ∀ handle stream, session.stream handle = .ok stream →
      ∀ lane ∈ (readAll stream.source).1.lanes, Loader.NoneLost lane)
    (ran : runFrom loadAll (session, host) = (.ok array, state))
    (retuned : Retuned state.1 array later list)
    (plain : ∀ handle stream, later.stream handle = .ok stream → stream.filters.hasContent = false)
    (done : later.refilterAll list = .ok (refiltered, after)) (other : σ) :
    (runFrom loadAll (after, other)).1 = .ok refiltered := by
  obtain ⟨arrays, gives⟩ := gives_of_loadAll steady.functions replays ran
  obtain ⟨left, loaded, leaves, _⟩ :=
    loadAll_gives steady.functions replays gives (.refl session) host
  rw [ran] at loaded
  cases loaded
  have whole : ∀ entry ∈ mergeLanes (session.handles.map arrays), entry.isLost →
      entry.visible = View.all := by
    intro entry member
    obtain ⟨lane, listed, present⟩ := mem_mergeLanes.mp member
    obtain ⟨handle, opened, rfl⟩ := List.mem_map.mp listed
    exact (gives handle opened).whole steady.makesNoMarker (noneLost handle) entry present
  obtain ⟨_, alike, same⟩ := retuned.keeps (sound_of_step .loadAll follows_loadAll sound ran) whole
  obtain ⟨_, rfl, rfl⟩ := refilterAll_eq_ok done
  have ready : Alike session
      { later with collections := later.collections.resetStreams (streamsOf list) } :=
    (leaves.toAlike.trans alike).trans (alike_of_streams rfl rfl)
  have allowed : ∀ handle ∈ session.handles,
      later.idFilters handle = .ok (later.filtersAt handle) := by
    intro handle member
    obtain ⟨stream, _, found, _⟩ := gives handle member
    obtain ⟨source, tasks, filters, _, there⟩ := ready.opened handle stream found
    have here : later.stream handle = .ok { stream with source, tasks, filters } := there
    have tuned := idFilters_eq_ok.mpr ⟨_, here, plain handle _ here, rfl⟩
    rw [tuned, filtersAt_of_ok tuned]
  rw [loadAll_retuned steady sound ready replays noneLost gives allowed other]
  exact congrArg Except.ok (same.recompute whole later.filtersAt later.settings.filterMask).symm

/-- Load a stream, or all streams, under any filters. Then change filters and the filter mask at
will, with recomputes on the way. Once no content filter is set, a recompute that succeeds makes of
the list what a fresh load gives. -/
theorem recompute_is_reload [DecidableEq H] (reachable : Reachable session)
    (steady : session.hooks.IsSteady) :
    (∀ {handle stream host array state later list refiltered after},
      session.stream handle = .ok stream → Replays stream.source →
      (∀ lane ∈ (readAll stream.source).1.lanes, Loader.NoneLost lane) →
      runFrom (load handle) (session, host) = (.ok array, state) →
      Retuned state.1 array later list →
      later.refilter handle list = .ok (refiltered, after) →
      ∀ other : σ, (runFrom (load handle) (after, other)).1 = .ok refiltered) ∧
    (∀ {host array state later list refiltered after},
      (∀ handle stream, session.stream handle = .ok stream → Replays stream.source ∧
        ∀ lane ∈ (readAll stream.source).1.lanes, Loader.NoneLost lane) →
      runFrom loadAll (session, host) = (.ok array, state) →
      Retuned state.1 array later list →
      (∀ handle stream, later.stream handle = .ok stream → stream.filters.hasContent = false) →
      later.refilterAll list = .ok (refiltered, after) →
      ∀ other : σ, (runFrom loadAll (after, other)).1 = .ok refiltered) := by
  have sound := reachable.sound
  constructor
  · intro handle stream host array state later list refiltered after found replays noneLost ran
      retuned done
    exact refilter_is_reload sound steady found replays noneLost ran retuned done
  · intro host array state later list refiltered after sources ran retuned plain done
    have replays := fun handle stream found => (sources handle stream found).1
    have noneLost := fun handle stream found => (sources handle stream found).2
    exact refilterAll_is_reload sound steady replays noneLost ran retuned plain done

def pickyTest : ContentTest := fun record => .ok (record.eventId = 2)

def pickyStream : Stream Script :=
  { scriptedStream 0 earlyRecords with filters := { content := some pickyTest } }

def pickySession : Session Script JournalPlugin ExtraCondition :=
  pairedSession.modifyStream ⟨0, 0⟩ fun stream =>
    { stream with filters := stream.filters.setContent pickyTest }

def pickyEntries (handle : Handle) : List Entry :=
  if handle.slot = 0 then
    [⟨⟨0, 0⟩, 0, 5, 1, 10, 0, View.graph⟩, ⟨⟨0, 0⟩, 0, 8, 2, 20, 1, View.all⟩]
  else pairedEntries handle

theorem reachable_pickySession : Reachable pickySession := by
  have acted : Reachable (runFrom (perform (.setContentTest ⟨0, 0⟩ pickyTest))
      (pairedSession, ([] : List JournalLine))).2.1 := .acted _ reachable_pairedSession
  exact acted

theorem load_pickySession (member : handle ∈ pickySession.handles) :
    (runFrom (load handle) (pickySession, [])).1 = .ok (pickyEntries handle) := by
  have handles : handle ∈ [(⟨0, 0⟩ : Handle), ⟨1, 0⟩] := member
  rcases List.mem_pair.mp handles with rfl | rfl
  · have found : pickySession.stream ⟨0, 0⟩ = .ok pickyStream := rfl
    exact load_of_script found rfl rfl ⟨calm_sampleHook, fun record _ => ⟨_, rfl⟩⟩ []
  · have found : pickySession.stream ⟨1, 0⟩ = .ok (scriptedStream 1 lateRecords) := rfl
    exact load_of_script found rfl rfl ⟨calm_sampleHook, fun record _ => ⟨true, rfl⟩⟩ []

theorem sources_of_pickySession {stream : Stream Script}
    (found : pickySession.stream handle = .ok stream) :
    Replays stream.source ∧ ∀ lane ∈ (readAll stream.source).1.lanes, Loader.NoneLost lane := by
  have tape : ∀ records, stream.source = .ofLists [records] none none →
      Loader.NoneLost records → Replays stream.source ∧
        ∀ lane ∈ (readAll stream.source).1.lanes, Loader.NoneLost lane := by
    intro records script noneLost
    obtain ⟨_, delivers⟩ := Script.ofLists_delivers [records]
    rw [script, readAll_eq_iff.mpr delivers]
    exact ⟨Script.ofLists_replays [records], List.forall_mem_singleton.mpr noneLost⟩
  have member := Registry.mem_streams_of_find? (Registry.get_eq_ok.mp found)
  rcases List.mem_pair.mp member with rfl | rfl
  · exact tape earlyRecords rfl (by unfold Loader.NoneLost; decide)
  · exact tape lateRecords rfl (by unfold Loader.NoneLost; decide)

theorem steady_pickySession : pickySession.hooks.IsSteady where
  functions hook _ := JournalPlugin.is_function hook.plugin
  keepsStream hook member := by
    rw [List.mem_singleton.mp member]
    exact JournalPlugin.keeps_of_setPid rfl fun _ _ => rfl
  keepsVisible hook member := by
    rw [List.mem_singleton.mp member]
    exact JournalPlugin.keeps_of_setPid rfl fun _ _ => rfl
  makesNoMarker hook member := by
    have keepsEvent : Plugin.Keeps hook.plugin Entry.isLost := by
      rw [List.mem_singleton.mp member]
      exact JournalPlugin.keeps_of_setPid rfl fun _ _ => rfl
    intro record before after turned lost
    rwa [← keepsEvent record before after turned]

def hiddenEvent : IdRule := ⟨.event, .hidden, 2⟩

def tunedFilters (handle : Handle) : Filters :=
  if handle = ⟨0, 0⟩ then ({} : Filters).add hiddenEvent else {}

theorem tunedFilters_hasContent (handle : Handle) : (tunedFilters handle).hasContent = false := by
  unfold tunedFilters
  split <;> rfl

theorem retuned_of_alike {state : Session Script JournalPlugin ExtraCondition}
    (alike : Alike pickySession state) (array : List Entry) :
    ∃ later, Retuned state array later (array.map Entry.unfiltered) ∧
      later.settings = state.settings ∧
      ∀ handle, later.stream handle =
        (state.stream handle).map fun stream => { stream with filters := tunedFilters handle } := by
  have first : pickySession.stream ⟨0, 0⟩ = .ok pickyStream := rfl
  obtain ⟨_, _, _, _, here⟩ := alike.opened ⟨0, 0⟩ pickyStream first
  let cleared := (state.clearFilters array).2
  have found : ∀ handle, cleared.stream handle =
      (state.stream handle).map fun stream => { stream with filters := {} } :=
    stream_clearFilters array
  let later := cleared.modifyStream ⟨0, 0⟩ fun stream =>
    { stream with filters := stream.filters.add hiddenEvent }
  have filtered : cleared.addFilter ⟨0, 0⟩ hiddenEvent = .ok later := by
    have opened := found ⟨0, 0⟩
    rw [here] at opened
    exact map_eq_ok.mpr ⟨_, opened, rfl⟩
  refine ⟨later, .filtered (.cleared .loaded) filtered, rfl, ?_⟩
  intro handle
  by_cases same : handle = ⟨0, 0⟩
  · subst same
    rw [stream_modify, found]
    cases state.stream ⟨0, 0⟩ <;> rfl
  · rw [stream_modify_of_ne same, found, tunedFilters, if_neg same]

theorem tuned_idFilters {state later : Session Script JournalPlugin ExtraCondition}
    (alike : Alike pickySession state) (member : handle ∈ pickySession.handles)
    (streams : ∀ handle, later.stream handle =
      (state.stream handle).map fun stream => { stream with filters := tunedFilters handle }) :
    later.idFilters handle = .ok (tunedFilters handle) := by
  obtain ⟨stream, found⟩ := reachable_pickySession.sound.coherent.mem_handles.mp member
  obtain ⟨_, _, _, _, here⟩ := alike.opened handle stream (Registry.get_eq_ok.mpr found)
  have there := streams handle
  rw [here] at there
  exact idFilters_eq_ok.mpr ⟨_, there, tunedFilters_hasContent handle, rfl⟩

/-- What is left of the entries of both streams when all filters are dropped and the events 2 of the
first stream are hidden. -/
def tunedEntries (handle : Handle) : List Entry :=
  if handle.slot = 0 then
    [⟨⟨0, 0⟩, 0, 5, 1, 10, 0, 0x7F⟩, ⟨⟨0, 0⟩, 0, 8, 2, 20, 1, View.graph ||| View.untouched⟩]
  else pairedEntries handle

theorem recompute_is_reload_of_pickySession :
    (∃ state later after,
      runFrom (load ⟨0, 0⟩) (pickySession, []) = (.ok (pickyEntries ⟨0, 0⟩), state) ∧
      Retuned state.1 (pickyEntries ⟨0, 0⟩) later ((pickyEntries ⟨0, 0⟩).map Entry.unfiltered) ∧
      later.refilter ⟨0, 0⟩ ((pickyEntries ⟨0, 0⟩).map Entry.unfiltered) =
        .ok (tunedEntries ⟨0, 0⟩, after) ∧
      (runFrom (load ⟨0, 0⟩) (after, [])).1 = .ok (tunedEntries ⟨0, 0⟩)) ∧
    ∃ array state later refiltered after,
      runFrom loadAll (pickySession, []) = (.ok array, state) ∧
      Retuned state.1 array later (array.map Entry.unfiltered) ∧
      later.refilterAll (array.map Entry.unfiltered) = .ok (refiltered, after) ∧
      (runFrom loadAll (after, [])).1 = .ok refiltered := by
  have gives : ∀ handle ∈ pickySession.handles,
      pickySession.Gives [] handle (pickyEntries handle) :=
    fun handle member => gives_of_load (load_pickySession member)
  have replays : ∀ handle stream, pickySession.stream handle = .ok stream →
      Replays stream.source := fun handle stream found => (sources_of_pickySession found).1
  constructor
  · have member : (⟨0, 0⟩ : Handle) ∈ pickySession.handles := List.mem_cons_self
    have ran : runFrom (load ⟨0, 0⟩) (pickySession, []) = (_, _) :=
      Prod.ext (load_pickySession member) rfl
    have leaves := load_leaves ran
    obtain ⟨later, retuned, settings, streams⟩ :=
      retuned_of_alike leaves.toAlike (pickyEntries ⟨0, 0⟩)
    have allowed := tuned_idFilters leaves.toAlike member streams
    have tuned := filtersAt_of_ok allowed
    have done : later.refilter ⟨0, 0⟩ ((pickyEntries ⟨0, 0⟩).map Entry.unfiltered) = .ok (_, _) :=
      refilter_of_ok (allowed.trans (congrArg _ tuned.symm))
    rw [tuned, settings, leaves.settings] at done
    have found : pickySession.stream ⟨0, 0⟩ = .ok pickyStream := rfl
    obtain ⟨_, noneLost⟩ := sources_of_pickySession found
    have reload := (recompute_is_reload reachable_pickySession steady_pickySession).1 found
      (replays _ _ found) noneLost ran retuned done []
    exact ⟨_, later, _, ran, retuned, done, reload⟩
  · obtain ⟨state, ran, leaves, _⟩ :=
      loadAll_gives steady_pickySession.functions replays gives (.refl _) []
    obtain ⟨later, retuned, settings, streams⟩ := retuned_of_alike leaves.toAlike
      (mergeLanes (pickySession.handles.map pickyEntries))
    have plain : ∀ handle stream, later.stream handle = .ok stream →
        stream.filters.hasContent = false := by
      intro handle stream found
      rw [streams] at found
      obtain ⟨_, _, rfl⟩ := map_eq_ok.mp found
      exact tunedFilters_hasContent handle
    have allowed : ∀ entry ∈ (mergeLanes (pickySession.handles.map pickyEntries)).map
        Entry.unfiltered,
        later.idFilters entry.stream = .ok (later.filtersAt entry.stream) := by
      intro entry member
      obtain ⟨old, present, rfl⟩ := List.mem_map.mp member
      have opened := stream_mem_handles reachable_pickySession.sound
        steady_pickySession.keepsStream gives old present
      have tuned := tuned_idFilters leaves.toAlike opened streams
      exact tuned.trans (congrArg _ (filtersAt_of_ok tuned).symm)
    have done := refilterAll_of_ok allowed
    have reload := (recompute_is_reload reachable_pickySession steady_pickySession).2
      (fun _ _ found => sources_of_pickySession found) ran retuned plain done []
    exact ⟨_, state, later, _, _, ran, retuned, done, reload⟩

end Session

end KernelTrace
