import KernelTrace.Proofs.Loads
import KernelTrace.Query.Selector

/-! The indexes of collections stay true of the entry list that a caller keeps, whatever it does to
the session and however often an operation fails. -/

namespace KernelTrace

variable {S H K σ : Type}

section

variable [Condition K]

def CollectionSpec.IsLocal (key : CollectionSpec K) : Prop :=
  ∀ entry, key.selector.selects entry key.stream key.args → entry.stream = key.stream

/-- The index is what the key would give for these entries. An index of another length than the
list is left only where the stream of the key has no entry in it. -/
structure PositionIndex.Tracks (index : PositionIndex) (key : CollectionSpec K)
    (entries : List Entry) : Prop where
  positions : index.positions.toList = key.positions entries
  covered : index.covered = entries.length ∨ ∀ entry ∈ entries, entry.stream ≠ key.stream

namespace CollectionSpec

variable {key : CollectionSpec K} {index : PositionIndex} {entries other : List Entry}

theorem IsLocal.rejects {entry : Entry} (isLocal : key.IsLocal)
    (foreign : entry.stream ≠ key.stream) : key.accepts entry = false := by
  cases accepted : key.accepts entry with
  | false => rfl
  | true =>
      have selected := (Bool.and_eq_true_iff.mp accepted).1
      exact absurd (isLocal entry selected) foreign

theorem isLocal_of_builtin (builtin : ∀ condition, key.selector.criterion ≠ .custom condition) :
    key.IsLocal := by
  intro entry selected
  rw [Selector.selects] at selected
  cases criterion : key.selector.criterion with
  | custom condition => exact absurd criterion (builtin condition)
  | pid | cpu | eventId =>
      rw [criterion] at selected
      exact of_decide_eq_true (Bool.and_eq_true_iff.mp selected).1

theorem indexOf_tracks (key : CollectionSpec K) (entries : List Entry) :
    (key.indexOf entries).Tracks key entries :=
  ⟨rfl, .inl rfl⟩

theorem tracks_of_absent (isLocal : key.IsLocal) (tracks : index.Tracks key entries)
    (absent : ∀ entry ∈ entries, entry.stream ≠ key.stream)
    (still : ∀ entry ∈ other, entry.stream ≠ key.stream) : index.Tracks key other := by
  refine ⟨?_, .inr still⟩
  rw [tracks.positions, positions_eq_nil fun entry member => isLocal.rejects (absent entry member),
    positions_eq_nil fun entry member => isLocal.rejects (still entry member)]

theorem tracks_of_map (isLocal : key.IsLocal) (tracks : index.Tracks key entries)
    {change : Entry → Entry} (keepsStream : ∀ entry, (change entry).stream = entry.stream)
    (leaves : ∀ entry, entry.stream = key.stream → change entry = entry) :
    index.Tracks key (entries.map change) := by
  constructor
  · rw [tracks.positions]
    apply positions_congr
    rw [List.map_map]
    apply List.map_congr_left
    intro entry _
    by_cases own : entry.stream = key.stream
    · rw [Function.comp_apply, leaves entry own]
    · rw [Function.comp_apply, isLocal.rejects own, isLocal.rejects (by rwa [keepsStream])]
  · rcases tracks.covered with full | absent
    · exact .inl (by rw [full, List.length_map])
    · right
      intro entry member
      obtain ⟨old, present, rfl⟩ := List.mem_map.mp member
      rw [keepsStream]
      exact absent old present

end CollectionSpec

namespace CollectionStore

/-- Every collection selects entries of its own stream, and its index is true of these entries. -/
def Tracks (store : CollectionStore K) (entries : List Entry) : Prop :=
  ∀ collection ∈ store.collections, collection.key.IsLocal ∧
    ∀ index, collection.index = some index → index.Tracks collection.key entries

variable {store after : CollectionStore K} {entries other : List Entry} {key : CollectionSpec K}

theorem Tracks.thinned (tracks : store.Tracks entries) (thins : store.Thins after) :
    after.Tracks entries := by
  intro collection member
  obtain ⟨old, present, same⟩ := thins collection member
  rcases same with rfl | rfl
  · exact tracks collection present
  · exact ⟨(tracks old present).1, fun index valid => nomatch valid⟩

theorem Tracks.add [DecidableEq K] (tracks : store.Tracks entries) (isLocal : key.IsLocal) :
    (store.add key entries).Tracks entries := by
  unfold CollectionStore.add
  split
  · exact tracks
  · intro collection member
    rcases List.mem_append.mp member with member | member
    · exact tracks collection member
    · rw [List.mem_singleton.mp member]
      refine ⟨isLocal, fun index valid => ?_⟩
      cases valid
      exact key.indexOf_tracks entries

theorem Tracks.put_fresh [DecidableEq K] {collection fresh : Collection K}
    (tracks : store.Tracks entries) (present : collection ∈ store.collections)
    (refreshed : collection.refresh entries = .ok fresh) : (store.put fresh).Tracks entries := by
  obtain ⟨isLocal, valid⟩ := tracks collection present
  have good : fresh.key.IsLocal ∧
      ∀ index, fresh.index = some index → index.Tracks fresh.key entries := by
    unfold Collection.refresh at refreshed
    split at refreshed
    · cases refreshed
      refine ⟨isLocal, fun index valid => ?_⟩
      cases valid
      exact collection.key.indexOf_tracks entries
    · split at refreshed
      · cases refreshed
        exact ⟨isLocal, valid⟩
      · cases refreshed
  intro other member
  obtain ⟨old, held, rfl⟩ := List.mem_map.mp member
  split
  · exact good
  · exact tracks old held

/-- The caller's list may change for another of which every index that is left is true. -/
theorem Tracks.of_valid (tracks : store.Tracks entries)
    (holds : ∀ collection ∈ store.collections, collection.key.IsLocal →
      ∀ index, collection.index = some index → index.Tracks collection.key entries →
        index.Tracks collection.key other) : store.Tracks other :=
  fun collection member =>
    ⟨(tracks collection member).1, fun index valid =>
      holds collection member (tracks collection member).1 index valid
        ((tracks collection member).2 index valid)⟩

end CollectionStore

end

namespace Action

/-- Where the action takes an entry list, it is this one. -/
def Uses (action : Action S H K) (entries : List Entry) : Prop :=
  match action with
  | .append list _ _ | .refilter _ list | .refilterAll list | .clearFilters list
  | .addCollection _ list | .firstFrom _ list _ | .lastUpTo _ list _ => list = entries
  | _ => True

/-- Plugins leave the stream of entries alone, and keys select entries of their own stream. -/
def IsFair [Plugin H σ] [Condition K] (action : Action S H K) : Prop :=
  match action with
  | .addHook _ _ plugin => Plugin.Keeps plugin Entry.stream
  | .addCollection key _ => key.IsLocal
  | _ => True

def rewrites (action : Action S H K) : Bool :=
  match action with
  | .refilter _ _ | .refilterAll _ | .clearFilters _ => true
  | _ => false

/-- Whether the list that the action gives may take the place of the caller's. -/
def replaces (action : Action S H K) : Bool :=
  match action with
  | .load _ => false
  | _ => true

end Action

namespace Session

variable [Plugin H σ] [Condition K]

structure Indexed (session : Session S H K) (entries : List Entry) : Prop where
  sound : session.Sound
  keepsStream : ∀ hook ∈ session.hooks.hooks, Plugin.Keeps hook.plugin Entry.stream
  tracks : session.collections.Tracks entries

theorem create_indexed {settings : Settings} {session : Session S H K}
    (created : create settings = .ok session) :
    session.Indexed [] := by
  have sound := create_sound created
  obtain ⟨_, rfl⟩ := create_eq_ok created
  exact ⟨sound, List.forall_mem_nil _, List.forall_mem_nil _⟩

section

variable {session after : Session S H K} {entries list : List Entry} {handle : Handle}
  {collection : Collection K} {index : PositionIndex}
  (isLocal : collection.key.IsLocal) (valid : collection.index = some index)
  (tracks : index.Tracks collection.key entries)

include isLocal valid tracks

theorem tracks_of_refilter (done : session.refilter handle entries = .ok (list, after))
    (member : collection ∈ after.collections.collections) : index.Tracks collection.key list := by
  obtain ⟨_, rfl, rfl⟩ := refilter_eq_ok done
  obtain ⟨_, other⟩ := CollectionStore.valid_after_resetStream member valid
  apply CollectionSpec.tracks_of_map isLocal tracks
  · intro entry
    split
    · exact Filters.reapply_stream _ _ entry
    · rfl
  · intro entry own
    exact if_neg fun same => other (own.symm.trans same)

theorem tracks_of_refilterAll (done : session.refilterAll entries = .ok (list, after))
    (member : collection ∈ after.collections.collections) : index.Tracks collection.key list := by
  obtain ⟨_, rfl, rfl⟩ := refilterAll_eq_ok done
  obtain ⟨_, others⟩ := CollectionStore.valid_after_resetStreams member valid
  have absent : ∀ entry ∈ entries, entry.stream ≠ collection.key.stream := by
    intro entry present same
    apply others
    rw [← same]
    exact mem_streamsOf.mpr ⟨entry, present, rfl⟩
  apply CollectionSpec.tracks_of_absent isLocal tracks absent
  intro new given
  obtain ⟨entry, present, rfl⟩ := List.mem_map.mp given
  rw [Filters.reapply_stream]
  exact absent entry present

end

variable [RecordSource S] [DecidableEq K]

/-- The sessions and lists of a caller that starts with an empty list, hands its list to every
operation that takes one, and after each operation leaves the list as it is or takes the list that
the operation gave, as the operation allows. -/
inductive Kept [DecidableEq H] : Session S H K → List Entry → Prop
  | created {settings : Settings} {session : Session S H K} :
      Session.create settings = .ok session → Kept session []
  | left {session after : Session S H K} {entries : List Entry} {host host' : σ}
      {action : Action S H K} {outcome : Except Failure (Option (List Entry))} :
      Kept session entries → action.Uses entries → action.IsFair →
      runFrom (perform action) (session, host) = (outcome, after, host') →
      (∀ list, outcome = .ok (some list) → action.rewrites = false) → Kept after entries
  | took {session after : Session S H K} {entries list : List Entry} {host host' : σ}
      {action : Action S H K} :
      Kept session entries → action.Uses entries → action.IsFair →
      runFrom (perform action) (session, host) = (.ok (some list), after, host') →
      action.replaces = true → Kept after list

variable {session after : Session S H K} {entries list : List Entry} {action : Action S H K}

theorem Moves.indexed (move : Moves action session after) (uses : action.Uses entries)
    (fair : action.IsFair) (indexed : session.Indexed entries) : after.Indexed entries := by
  have sound := move.sound indexed.sound
  obtain ⟨_, keepsStream, tracks⟩ := indexed
  cases move with
  | masked | opened | tuned | unfiltered | started | reread => exact ⟨sound, keepsStream, tracks⟩
  | closed _ closed =>
      obtain ⟨⟨stream, streams⟩, _, rfl⟩ := map_eq_ok.mp closed
      refine ⟨sound, ?_, tracks.thinned (CollectionStore.thins_filter _ _)⟩
      intro hook member
      exact keepsStream hook (List.mem_filter.mp member).1
  | hooked added _ =>
      subst added
      refine ⟨sound, ?_, tracks⟩
      intro hook member
      rcases List.mem_append.mp member with member | member
      · exact keepsStream hook member
      · rw [List.mem_singleton.mp member]
        exact fair
  | unhooked fewer =>
      exact ⟨sound, fun hook member => keepsStream hook (fewer.subset member), tracks⟩
  | thinned thins => exact ⟨sound, keepsStream, tracks.thinned thins⟩
  | built added _ =>
      subst added
      cases uses
      exact ⟨sound, keepsStream, tracks.add fair⟩
  | asked asks found refreshed =>
      have present := List.mem_of_find?_eq_some found
      rcases asks with rfl | rfl
      · cases uses
        exact ⟨sound, keepsStream, tracks.put_fresh present refreshed⟩
      · cases uses
        exact ⟨sound, keepsStream, tracks.put_fresh present refreshed⟩
  | settled _ _ =>
      refine ⟨sound, ?_, tracks.thinned (settle_thins session _ _ _)⟩
      rw [settle_hooks]
      exact keepsStream

theorem indexed_of_moves (moves : Relation.ReflTransGen (Moves action) session after)
    (uses : action.Uses entries) (fair : action.IsFair) (indexed : session.Indexed entries) :
    after.Indexed entries := by
  induction moves with
  | refl => exact indexed
  | tail _ move ih => exact move.indexed uses fair ih

theorem tracks_of_append {handle : Handle} {clock : Option Clock}
    {before state : Session S H K × σ} {collection : Collection K} {index : PositionIndex}
    (isLocal : collection.key.IsLocal) (valid : collection.index = some index)
    (tracks : index.Tracks collection.key entries) (indexed : before.1.Indexed entries)
    (ran : runFrom (append entries handle clock) before = (.ok list, state))
    (member : collection ∈ state.1.collections.collections) :
    index.Tracks collection.key list := by
  obtain ⟨ready, fresh, loaded, clocked, read, rfl, rfl⟩ := append_eq_ok ran
  have readyIndexed : ready.Indexed entries := by
    rcases clocked with ⟨_, rfl⟩ | ⟨set, _, changed⟩
    · exact indexed
    · have moves : Relation.ReflTransGen (Moves (.setClock handle set)) before.1 ready :=
        moves_of_updateStream (fun stream => ⟨stream.filters, some set, rfl⟩) changed
      exact indexed_of_moves moves trivial trivial indexed
  obtain ⟨middle, others⟩ := CollectionStore.valid_after_resetStreams member valid
  rw [collections_of_load read] at middle
  obtain ⟨_, other⟩ := CollectionStore.valid_after_resetStream middle valid
  have absent : ∀ entry ∈ entries, entry.stream ≠ collection.key.stream := by
    intro entry present same
    apply others
    rw [← same]
    exact List.mem_eraseDups.mpr (List.mem_map_of_mem present)
  apply CollectionSpec.tracks_of_absent isLocal tracks absent
  intro entry merged
  rw [mergePair_eq_mergeTwo, mem_mergeTwo] at merged
  rcases merged with present | new
  · exact absent entry present
  · rw [streams_of_load readyIndexed.sound readyIndexed.keepsStream read entry new]
    exact fun same => other same.symm

theorem tracks_of_answers {before state : Session S H K × σ} (uses : action.Uses entries)
    (indexed : before.1.Indexed entries) (kept : state.1.Indexed entries)
    (replaces : action.replaces = true) (answers : Answers action before list state) :
    state.1.collections.Tracks list := by
  apply kept.tracks.of_valid
  intro collection member isLocal index valid tracks
  cases answers with
  | load => cases replaces
  | loadAll ran =>
      obtain ⟨loaded, _, rfl⟩ := loadAll_eq_ok ran
      cases (CollectionStore.index_after_resetAll member).symm.trans valid
  | clearFilters => cases (CollectionStore.index_after_resetAll member).symm.trans valid
  | refilter done =>
      cases uses
      exact tracks_of_refilter isLocal valid tracks done member
  | refilterAll done =>
      cases uses
      exact tracks_of_refilterAll isLocal valid tracks done member
  | append ran =>
      cases uses
      exact tracks_of_append isLocal valid tracks indexed ran member

theorem Kept.indexed [DecidableEq H] (kept : Kept session entries) : session.Indexed entries := by
  induction kept with
  | created created => exact create_indexed created
  | @left session after entries host _ action _ _ uses fair ran _ ih =>
      have moves := follows_perform action (session, host)
      rw [ran] at moves
      exact indexed_of_moves moves uses fair ih
  | @took session after entries list host _ action _ uses fair ran replaces ih =>
      have moves := follows_perform action (session, host)
      rw [ran] at moves
      have indexed := indexed_of_moves moves uses fair ih
      have tracks := tracks_of_answers uses ih indexed replaces (answers_of_perform ran)
      exact ⟨indexed.sound, indexed.keepsStream, tracks⟩

/-- However a caller that keeps one list goes on, the index of each collection is the ascending list
of the positions at which that list has a visible entry that matches the key. -/
theorem Kept.indexes_are_true [DecidableEq H] (kept : Kept session entries)
    {collection : Collection K} (registered : collection ∈ session.collections.collections)
    {index : PositionIndex} (valid : collection.index = some index) :
    index.positions.toList.Pairwise (· < ·) ∧
      (∀ position, position ∈ index.positions ↔ ∃ entry, entries[position]? = some entry ∧
        collection.key.selector.selects entry collection.key.stream collection.key.args ∧
        entry.isVisible collection.key.mask) ∧
      (index.covered = entries.length ∨
        ∀ entry ∈ entries, entry.stream ≠ collection.key.stream) := by
  have tracks := (kept.indexed.tracks collection registered).2 index valid
  refine ⟨?_, ?_, tracks.covered⟩
  · rw [tracks.positions]
    exact collection.key.positions_ascending entries
  · intro position
    rw [← Array.mem_toList_iff, tracks.positions, CollectionSpec.mem_positions]
    simp only [CollectionSpec.accepts, Bool.and_eq_true]

abbrev SampleSession := Session Script JournalPlugin ExtraCondition

def sampleRecords : List Record :=
  [⟨10, 0, 7, 1, 0, 0, []⟩, ⟨20, 0, 8, 1, 1, 0, []⟩, ⟨30, 0, 7, 2, 2, 0, []⟩]

def sampleStream : Stream Script :=
  { handle := ⟨0, 0⟩, name := "a", cpuCount := 1, source := .ofLists [sampleRecords] none none }

def sampleEntries : List Entry :=
  [⟨⟨0, 0⟩, 0, 7, 1, 10, 0, View.all⟩, ⟨⟨0, 0⟩, 0, 8, 1, 20, 1, View.all⟩,
   ⟨⟨0, 0⟩, 0, 7, 2, 30, 2, View.all⟩]

def sampleKey : CollectionSpec ExtraCondition := ⟨Selector.pid, ⟨0, 0⟩, [7], View.text, 0⟩

def sampleSession (collections : List (Collection ExtraCondition)) : SampleSession :=
  { settings := {}
    streams := { limit := 127, slots := [{ stream := some sampleStream }] }
    collections := ⟨collections⟩ }

theorem kept_sampleSession : Kept (sampleSession [.build sampleKey []]) [] := by
  have created : create {} =
      .ok ({ settings := {}, streams := { limit := 127 } } : SampleSession) := rfl
  have opened : runFrom (perform (.addSource "a" sampleStream.source))
      (({ settings := {}, streams := { limit := 127 } } : SampleSession), []) =
        (.ok none, sampleSession [], []) := rfl
  have registered : runFrom (perform (.addCollection sampleKey [])) (sampleSession [], []) =
      (.ok none, sampleSession [.build sampleKey []], []) := rfl
  have isLocal : sampleKey.IsLocal :=
    CollectionSpec.isLocal_of_builtin fun condition same => nomatch same
  have kept : Kept (sampleSession []) [] := by
    refine .left (.created created) ?_ ?_ opened fun _ _ => rfl
    · trivial
    · trivial
  refine .left kept ?_ ?_ registered fun _ _ => rfl
  · rfl
  · exact isLocal

theorem load_sampleSession (collections : List (Collection ExtraCondition)) :
    ∃ after, runFrom (load ⟨0, 0⟩) (sampleSession collections, []) =
      (.ok sampleEntries, after) := by
  have found : (sampleSession collections).stream ⟨0, 0⟩ = .ok sampleStream := rfl
  have calm : ((sampleSession collections).loader sampleStream).IsCalm sampleRecords :=
    ⟨List.forall_mem_nil _, fun record _ => ⟨true, rfl⟩⟩
  exact ⟨_, Prod.ext (load_of_script found rfl rfl calm []) rfl⟩

theorem indexes_are_true_of_sampleSession :
    ∃ (session : SampleSession) (index : PositionIndex), Kept session sampleEntries ∧
      ⟨sampleKey, some index⟩ ∈ session.collections.collections ∧
      index.positions = #[0, 2] ∧ index.positions.toList.Pairwise (· < ·) := by
  obtain ⟨⟨loaded, host⟩, ran⟩ := load_sampleSession [.build sampleKey []]
  have reset : loaded.collections = ⟨[⟨sampleKey, none⟩]⟩ := collections_of_load ran
  obtain ⟨settings, streams, hooks, collections, progress⟩ := loaded
  cases reset
  let indexed (index : Option PositionIndex) : SampleSession :=
    { settings, streams, hooks, collections := ⟨[⟨sampleKey, index⟩]⟩, progress }
  have appended : runFrom (perform (.append [] ⟨0, 0⟩ none))
      (sampleSession [.build sampleKey []], []) =
        (.ok (some sampleEntries), indexed none, host) := by
    rw [perform, runFrom_bind_ok (append_of_load ran)]
    rfl
  have asked : runFrom (perform (.firstFrom sampleKey sampleEntries ⟨0, 3⟩)) (indexed none, host) =
      (.ok none, indexed (some ⟨#[0, 2], 3⟩), host) := rfl
  have kept : Kept (indexed none) sampleEntries := by
    refine .took kept_sampleSession ?_ ?_ appended rfl
    · rfl
    · trivial
  have final : Kept (indexed (some ⟨#[0, 2], 3⟩)) sampleEntries := by
    refine .left kept ?_ ?_ asked fun _ _ => rfl
    · rfl
    · trivial
  have member := List.mem_singleton_self (⟨sampleKey, some ⟨#[0, 2], 3⟩⟩ : Collection _)
  exact ⟨_, _, final, member, rfl, (final.indexes_are_true member rfl).1⟩

end Session

end KernelTrace
