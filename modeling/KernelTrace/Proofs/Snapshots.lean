import KernelTrace.Proofs.Lookups
import KernelTrace.Proofs.Stores
import Mathlib.Data.Finset.Sort
import Mathlib.Data.List.Dedup
import Mathlib.Logic.Function.Basic

/-! A store of collections told without indexes: each registered key has the entries that its
collection was last built from, or none. The main theorem says that every sequence of calls gets the
same answers from both. -/

namespace KernelTrace

variable {K : Type}

inductive Snapshot
  | reset
  | built (entries : List Entry)
  deriving DecidableEq, Repr

namespace Snapshot

variable [Condition K]

/-- Built of few entries, of which the key accepts more than one in `denseRatio`. -/
def isDense (key : CollectionSpec K) : Snapshot → Bool
  | reset => false
  | built entries =>
    entries.length < smallDataset && (key.accepted entries).Nonempty &&
      entries.length / (key.accepted entries).card < denseRatio

def collection (key : CollectionSpec K) : Snapshot → Collection K
  | reset => ⟨key, none⟩
  | built entries => ⟨key, some ⟨(key.accepted entries).sort.toArray, entries.length⟩⟩

end Snapshot

/-- What every key stands for, with the finitely many keys that stand for something. -/
structure Snapshots (K : Type) where
  keys : Finset (CollectionSpec K)
  snapshot : CollectionSpec K → Option Snapshot
  registered : ∀ key, key ∈ keys ↔ (snapshot key).isSome

namespace Snapshots

def empty : Snapshots K := ⟨∅, fun _ => none, by simp⟩

def keep (snapshots : Snapshots K) (kept : CollectionSpec K → Bool) : Snapshots K where
  keys := snapshots.keys.filter fun key => kept key
  snapshot key := if kept key then snapshots.snapshot key else none
  registered key := by
    rw [Finset.mem_filter, snapshots.registered]
    cases kept key <;> simp

def resetWhere (snapshots : Snapshots K) (chosen : CollectionSpec K → Snapshot → Bool) :
    Snapshots K where
  keys := snapshots.keys
  snapshot key :=
    (snapshots.snapshot key).map fun snapshot => if chosen key snapshot then .reset else snapshot
  registered key := by rw [snapshots.registered, Option.isSome_map]

variable [DecidableEq K]

def put (snapshots : Snapshots K) (key : CollectionSpec K) (snapshot : Snapshot) :
    Snapshots K where
  keys := insert key snapshots.keys
  snapshot := Function.update snapshots.snapshot key (some snapshot)
  registered other := by
    rw [Finset.mem_insert, snapshots.registered]
    by_cases same : other = key
    · simp [same]
    · simp [same]

theorem snapshot_put (snapshots : Snapshots K) (key other : CollectionSpec K)
    (snapshot : Snapshot) :
    (snapshots.put key snapshot).snapshot other =
      if other = key then some snapshot else snapshots.snapshot other :=
  Function.update_apply _ _ _ _

end Snapshots

inductive StoreCall (K : Type)
  | add (key : CollectionSpec K) (entries : List Entry)
  | remove (key : CollectionSpec K)
  | reset (key : CollectionSpec K)
  | resetStream (stream : Handle)
  | resetAll
  | dropDense
  | removeStream (stream : Handle)
  | find (key : CollectionSpec K)
  | size
  | isEmpty
  | firstFrom (key : CollectionSpec K) (entries : List Entry) (window : Window)
  | lastUpTo (key : CollectionSpec K) (entries : List Entry) (window : Window)

inductive StoreAnswer (K : Type)
  | done
  | flag (holds : Bool)
  | count (number : Nat)
  | collection (found : Option (Collection K))
  | position (found : Option Nat)
  | fault (cause : Fault)
  deriving DecidableEq, Repr

def answerAll {s : Type} (answer : s → StoreCall K → StoreAnswer K × s) :
    s → List (StoreCall K) → List (StoreAnswer K) × s
  | state, [] => ([], state)
  | state, call :: calls =>
    let (first, state) := answer state call
    let (others, state) := answerAll answer state calls
    (first :: others, state)

def StoreCall.IsSized : StoreCall K → Prop
  | add _ entries | firstFrom _ entries _ | lastUpTo _ entries _ => entries.length ≤ maxPosition
  | _ => True

/-- The call does not look backwards from the last position of all. -/
def StoreCall.IsInRange : StoreCall K → Prop
  | lastUpTo _ _ window => window.count = 0 ∨ window.first < maxPosition
  | _ => True

section

variable [DecidableEq K] [Condition K]

namespace CollectionStore

def queried (store : CollectionStore K) (outcome : Except Fault (Option Nat × CollectionStore K)) :
    StoreAnswer K × CollectionStore K :=
  match outcome with
  | .error fault => (.fault fault, store)
  | .ok (found, after) => (.position found, after)

def changed (store : CollectionStore K) (outcome : Except Fault (CollectionStore K)) :
    StoreAnswer K × CollectionStore K :=
  match outcome with
  | .error fault => (.fault fault, store)
  | .ok after => (.done, after)

def answer (store : CollectionStore K) : StoreCall K → StoreAnswer K × CollectionStore K
  | .add key entries => (.done, store.add key entries)
  | .remove key => store.changed (store.remove key)
  | .reset key => store.changed (store.reset key)
  | .resetStream stream => (.done, store.resetStream stream)
  | .resetAll => (.done, store.resetAll)
  | .dropDense => (.count store.dropDense.1, store.dropDense.2)
  | .removeStream stream => (.done, store.removeStream stream)
  | .find key => (.collection (store.find? key), store)
  | .size => (.count store.size, store)
  | .isEmpty => (.flag store.isEmpty, store)
  | .firstFrom key entries window => store.queried (store.firstFrom key entries window)
  | .lastUpTo key entries window => store.queried (store.lastUpTo key entries window)

end CollectionStore

namespace Snapshots

/-- A key without entries takes those of the query. Any other answers from its own entries, as long
as those of the query are as many. -/
def ask (snapshots : Snapshots K) (key : CollectionSpec K) (entries : List Entry)
    (look : List Entry → Option Nat) : StoreAnswer K × Snapshots K :=
  match snapshots.snapshot key with
  | none => (.fault .notRegistered, snapshots)
  | some .reset => (.position (look entries), snapshots.put key (.built entries))
  | some (.built old) =>
    if old.length = entries.length then (.position (look old), snapshots)
    else (.fault (.stale old.length entries.length), snapshots)

def answer (snapshots : Snapshots K) : StoreCall K → StoreAnswer K × Snapshots K
  | .add key entries =>
    (.done, if key ∈ snapshots.keys then snapshots else snapshots.put key (.built entries))
  | .remove key =>
    if key ∈ snapshots.keys then (.done, snapshots.keep (· ≠ key))
    else (.fault .notRegistered, snapshots)
  | .reset key =>
    if key ∈ snapshots.keys then (.done, snapshots.put key .reset)
    else (.fault .notRegistered, snapshots)
  | .resetStream stream => (.done, snapshots.resetWhere fun key _ => key.stream = stream)
  | .resetAll => (.done, snapshots.resetWhere fun _ _ => true)
  | .dropDense =>
    (.count (snapshots.keys.filter fun key =>
        (snapshots.snapshot key).any (Snapshot.isDense key)).card,
      snapshots.resetWhere Snapshot.isDense)
  | .removeStream stream => (.done, snapshots.keep (·.stream ≠ stream))
  | .find key => (.collection ((snapshots.snapshot key).map (Snapshot.collection key)), snapshots)
  | .size => (.count snapshots.keys.card, snapshots)
  | .isEmpty => (.flag (snapshots.keys = ∅), snapshots)
  | .firstFrom key entries window =>
    snapshots.ask key entries fun built =>
      if window.count = 0 then none else least? (key.ahead window built)
  | .lastUpTo key entries window =>
    snapshots.ask key entries fun built =>
      if window.count = 0 then none else greatest? (key.behind window built)

end Snapshots

end

section

variable [Condition K] {key : CollectionSpec K} {entries : List Entry} {window : Window}

theorem CollectionSpec.positions_eq_sort (key : CollectionSpec K) (entries : List Entry) :
    key.positions entries = (key.accepted entries).sort := by
  have ascending := key.positions_ascending entries
  have unique : (key.positions entries).Nodup := ascending.imp Nat.ne_of_lt
  have same : (key.positions entries).toFinset = key.accepted entries := by
    ext position
    rw [List.mem_toFinset, mem_accepted, mem_positions]
  rw [← same]
  exact ((List.toFinset_sort _ unique).mpr (ascending.imp Nat.le_of_lt)).symm

theorem CollectionSpec.card_accepted (key : CollectionSpec K) (entries : List Entry) :
    (key.accepted entries).card = (key.positions entries).length := by
  rw [positions_eq_sort, Finset.length_sort]

theorem Collection.firstFrom_look (small : entries.length ≤ maxPosition) :
    (build key entries).firstFrom window =
      if window.count = 0 then none else least? (key.ahead window entries) := by
  split
  · rename_i none
    rw [firstFrom, if_pos none]
  · rename_i wide
    exact CollectionSpec.firstFrom_build small wide

theorem Collection.lastUpTo_look (small : entries.length ≤ maxPosition)
    (inRange : window.count = 0 ∨ window.first < maxPosition) :
    (build key entries).lastUpTo window =
      if window.count = 0 then none else greatest? (key.behind window entries) := by
  split
  · rename_i none
    rw [lastUpTo, if_pos none]
  · rename_i wide
    exact CollectionSpec.lastUpTo_build small (inRange.resolve_left wide) wide

theorem Snapshot.collection_built (key : CollectionSpec K) (entries : List Entry) :
    (built entries).collection key = Collection.build key entries := by
  rw [collection, Collection.build, CollectionSpec.indexOf, key.positions_eq_sort]

@[simp] theorem Snapshot.collection_key (key : CollectionSpec K) (snapshot : Snapshot) :
    (snapshot.collection key).key = key := by
  cases snapshot <;> rfl

theorem Snapshot.reset_collection (key : CollectionSpec K) (snapshot : Snapshot) :
    (snapshot.collection key).reset = Snapshot.reset.collection key := by
  cases snapshot <;> rfl

theorem Snapshot.isWasteful_collection (key : CollectionSpec K) (snapshot : Snapshot) :
    CollectionStore.isWasteful (snapshot.collection key) = snapshot.isDense key := by
  cases snapshot with
  | reset => rfl
  | built entries =>
      have empty : (Collection.build key entries).isEmpty =
          !decide (key.accepted entries).Nonempty := by
        have same := key.card_accepted entries
        simp only [Collection.isEmpty, Collection.positions, Collection.build,
          CollectionSpec.indexOf, Option.elim_some, List.isEmpty_toArray, ← Finset.card_pos, same,
          List.length_pos_iff]
        cases key.positions entries <;> rfl
      have size : (Collection.build key entries).size = (key.accepted entries).card := by
        rw [key.card_accepted]
        rfl
      have covered : (Collection.build key entries).covered = entries.length := rfl
      have valid : (Collection.build key entries).isValid = true := rfl
      rw [collection_built, isDense, CollectionStore.isWasteful, valid, Collection.isUseful,
        empty, size, covered]
      simp only [Bool.true_and, Bool.not_or, Bool.not_not]
      simp only [← decide_not, not_le]

end

namespace CollectionStore

variable [DecidableEq K] [Condition K] {store : CollectionStore K} {snapshots : Snapshots K}
  {key : CollectionSpec K} {entries : List Entry}

/-- No key is registered twice, and each finds the collection that stands for its snapshot. -/
structure Shows (store : CollectionStore K) (snapshots : Snapshots K) : Prop where
  unique : store.keys.Nodup
  found : ∀ key, store.find? key = (snapshots.snapshot key).map (Snapshot.collection key)

theorem shows_empty : ({} : CollectionStore K).Shows .empty := ⟨.nil, fun _ => rfl⟩

namespace Shows

theorem mem_keys (shows : store.Shows snapshots) : key ∈ snapshots.keys ↔ key ∈ store.keys := by
  have absent := @find?_eq_none_iff _ store key _
  rw [shows.found, Option.map_eq_none_iff] at absent
  rw [snapshots.registered, Option.isSome_iff_ne_none, ne_eq, absent, not_not]

theorem keys_eq (shows : store.Shows snapshots) : snapshots.keys = store.keys.toFinset := by
  ext key
  rw [shows.mem_keys, List.mem_toFinset]

theorem size (shows : store.Shows snapshots) : snapshots.keys.card = store.size := by
  calc snapshots.keys.card
    _ = store.keys.length := by rw [shows.keys_eq, List.toFinset_card_of_nodup shows.unique]
    _ = store.size := List.length_map _

theorem isEmpty (shows : store.Shows snapshots) :
    store.isEmpty = decide (snapshots.keys = ∅) := by
  rw [Bool.eq_iff_iff, decide_eq_true_eq, ← Finset.card_eq_zero, shows.size,
    CollectionStore.isEmpty, List.isEmpty_iff, CollectionStore.size, List.length_eq_zero_iff]

theorem countP (shows : store.Shows snapshots) (test : Collection K → Bool)
    (chosen : CollectionSpec K → Snapshot → Bool)
    (same : ∀ key snapshot, test (snapshot.collection key) = chosen key snapshot) :
    (snapshots.keys.filter fun key => (snapshots.snapshot key).any (chosen key)).card =
      store.collections.countP test := by
  rw [shows.keys_eq, ← List.toFinset_filter, List.toFinset_card_of_nodup (shows.unique.filter _),
    ← List.countP_eq_length_filter, keys, List.countP_map]
  apply List.countP_congr
  intro collection member
  have found := find?_of_mem shows.unique member
  rw [shows.found, Option.map_eq_some_iff] at found
  obtain ⟨snapshot, taken, stands⟩ := found
  have verdict := same collection.key snapshot
  rw [stands] at verdict
  simp only [Function.comp_apply, taken, Option.any_some, verdict]

theorem put (shows : store.Shows snapshots) (registered : key ∈ store.keys) (snapshot : Snapshot) :
    (store.put (snapshot.collection key)).Shows (snapshots.put key snapshot) := by
  refine ⟨by rw [keys_put]; exact shows.unique, ?_⟩
  intro other
  rw [find?_put (by rwa [Snapshot.collection_key]), Snapshot.collection_key, shows.found,
    Snapshots.snapshot_put]
  split
  · rename_i same
    rw [same, Option.map_some]
  · rfl

theorem put_again (shows : store.Shows snapshots) {snapshot : Snapshot}
    (taken : snapshots.snapshot key = some snapshot) :
    (store.put (snapshot.collection key)).Shows snapshots := by
  have registered : key ∈ store.keys := by
    rw [← shows.mem_keys, snapshots.registered, taken]
    rfl
  refine ⟨by rw [keys_put]; exact shows.unique, ?_⟩
  intro other
  rw [find?_put (by rwa [Snapshot.collection_key]), Snapshot.collection_key, shows.found]
  split
  · rename_i same
    rw [same, taken, Option.map_some]
  · rfl

theorem add (shows : store.Shows snapshots) (unregistered : key ∉ store.keys)
    (entries : List Entry) :
    (store.add key entries).Shows (snapshots.put key (.built entries)) := by
  constructor
  · rw [add_of_unregistered unregistered, keys, List.map_append, List.nodup_append]
    refine ⟨shows.unique, List.nodup_singleton _, ?_⟩
    intro other member last added
    rw [List.map_singleton, List.mem_singleton] at added
    rw [added]
    rintro rfl
    exact unregistered member
  · intro other
    rw [find?_add unregistered, shows.found, Snapshots.snapshot_put]
    split
    · rename_i same
      rw [same, Option.map_some, Snapshot.collection_built]
    · rfl

theorem keep (shows : store.Shows snapshots) (kept : CollectionSpec K → Bool) :
    (⟨store.collections.filter (kept ·.key)⟩ : CollectionStore K).Shows (snapshots.keep kept) := by
  refine ⟨by rw [keys_filter]; exact shows.unique.filter _, ?_⟩
  intro key
  rw [find?_filter, shows.found, Snapshots.keep]
  dsimp only
  split <;> rfl

theorem resetWhere (shows : store.Shows snapshots) (test : Collection K → Bool)
    (chosen : CollectionSpec K → Snapshot → Bool)
    (same : ∀ key snapshot, test (snapshot.collection key) = chosen key snapshot) :
    (⟨store.collections.map fun collection =>
        if test collection then collection.reset else collection⟩ : CollectionStore K).Shows
      (snapshots.resetWhere chosen) := by
  have keeps : ∀ collection : Collection K,
      (if test collection then collection.reset else collection).key = collection.key := by
    intro collection
    split <;> rfl
  refine ⟨by rw [keys_map keeps]; exact shows.unique, ?_⟩
  intro key
  rw [find?_map keeps, shows.found, Snapshots.resetWhere, Option.map_map, Option.map_map]
  congr 1
  funext snapshot
  simp only [Function.comp_apply, same]
  split
  · exact snapshot.reset_collection key
  · rfl

theorem resetStream (shows : store.Shows snapshots) (stream : Handle) :
    (store.resetStream stream).Shows (snapshots.resetWhere fun key _ => key.stream = stream) := by
  have done := shows.resetWhere (fun collection => collection.key.stream = stream)
    (fun key _ => key.stream = stream) fun key snapshot => by
      rw [Snapshot.collection_key]
  simpa only [CollectionStore.resetStream, decide_eq_true_eq] using done

theorem remove (shows : store.Shows snapshots) (registered : key ∈ store.keys) :
    ∃ after, store.remove key = .ok after ∧ after.Shows (snapshots.keep (· ≠ key)) := by
  refine ⟨_, ?_, shows.keep (· ≠ key)⟩
  rw [CollectionStore.remove, contains_iff.mpr registered, if_pos rfl]

theorem resetKey (shows : store.Shows snapshots) (registered : key ∈ store.keys) :
    ∃ after, store.reset key = .ok after ∧ after.Shows (snapshots.put key .reset) := by
  have known := contains_iff.mpr registered
  rw [contains, shows.found, Option.isSome_map] at known
  obtain ⟨snapshot, taken⟩ := Option.isSome_iff_exists.mp known
  refine ⟨_, ?_, shows.put registered .reset⟩
  rw [CollectionStore.reset, shows.found, taken]
  simp only [Option.map_some, snapshot.reset_collection]

end Shows

end CollectionStore

namespace Snapshots

variable {snapshots : Snapshots K} {key : CollectionSpec K} {entries : List Entry}

def IsSized (snapshots : Snapshots K) : Prop :=
  ∀ key entries, snapshots.snapshot key = some (.built entries) → entries.length ≤ maxPosition

theorem IsSized.keep (sized : snapshots.IsSized) (kept : CollectionSpec K → Bool) :
    (snapshots.keep kept).IsSized := by
  intro key entries taken
  rw [Snapshots.keep] at taken
  dsimp only at taken
  split at taken
  · exact sized key entries taken
  · contradiction

theorem IsSized.resetWhere (sized : snapshots.IsSized)
    (chosen : CollectionSpec K → Snapshot → Bool) : (snapshots.resetWhere chosen).IsSized := by
  intro key entries taken
  obtain ⟨snapshot, before, after⟩ := Option.map_eq_some_iff.mp taken
  split at after
  · contradiction
  · exact sized key entries (before.trans (congrArg some after))

variable [DecidableEq K]

theorem IsSized.put (sized : snapshots.IsSized) {snapshot : Snapshot}
    (small : ∀ entries, snapshot = .built entries → entries.length ≤ maxPosition) :
    (snapshots.put key snapshot).IsSized := by
  intro other entries taken
  rw [snapshot_put] at taken
  split at taken
  · exact small entries (Option.some.inj taken)
  · exact sized other entries taken

theorem IsSized.ask (sized : snapshots.IsSized) (small : entries.length ≤ maxPosition)
    (look : List Entry → Option Nat) : (snapshots.ask key entries look).2.IsSized := by
  unfold Snapshots.ask
  split
  · exact sized
  · exact sized.put fun _ same => Snapshot.built.inj same ▸ small
  · split <;> exact sized

variable [Condition K]

theorem IsSized.answer (sized : snapshots.IsSized) {call : StoreCall K} (small : call.IsSized) :
    (snapshots.answer call).2.IsSized := by
  have built : ∀ {entries : List Entry}, entries.length ≤ maxPosition →
      ∀ other, Snapshot.built entries = .built other → other.length ≤ maxPosition :=
    fun small _ same => Snapshot.built.inj same ▸ small
  cases call with
  | add key entries =>
      dsimp only [Snapshots.answer]
      split
      · exact sized
      · exact sized.put (built small)
  | remove key =>
      dsimp only [Snapshots.answer]
      split
      · exact sized.keep _
      · exact sized
  | reset key =>
      dsimp only [Snapshots.answer]
      split
      · exact sized.put fun _ same => nomatch same
      · exact sized
  | resetStream | resetAll | dropDense => exact sized.resetWhere _
  | removeStream => exact sized.keep _
  | find | size | isEmpty => exact sized
  | firstFrom | lastUpTo => exact sized.ask small _

end Snapshots

namespace CollectionStore

variable [DecidableEq K] [Condition K] {store : CollectionStore K} {snapshots : Snapshots K}
  {key : CollectionSpec K} {entries : List Entry}

/-- Both sides query alike. The answers are the same where the lookup in a collection that was just
built is the look at its entries. -/
theorem Shows.query (shows : store.Shows snapshots) (key : CollectionSpec K)
    (entries : List Entry) (lookup : Collection K → Option Nat)
    (look : List Entry → Option Nat) :
    (store.queried (store.query key entries lookup)).2.Shows (snapshots.ask key entries look).2 ∧
      ((∀ built, snapshots.snapshot key = some (.built built) ∨ built = entries →
          lookup (Collection.build key built) = look built) →
        (store.queried (store.query key entries lookup)).1 =
          (snapshots.ask key entries look).1) := by
  rw [CollectionStore.query, shows.found, Snapshots.ask]
  cases taken : snapshots.snapshot key with
  | none => exact ⟨shows, fun _ => rfl⟩
  | some snapshot =>
    have registered : key ∈ store.keys := by
      rw [← shows.mem_keys, snapshots.registered, taken]
      rfl
    cases snapshot with
    | reset =>
        refine ⟨?_, fun agree => congrArg _ (agree entries (.inr rfl))⟩
        have renewed := shows.put registered (.built entries)
        rwa [Snapshot.collection_built] at renewed
    | built old =>
        simp only [Option.map_some, Collection.refresh, Snapshot.collection]
        split
        · refine ⟨shows.put_again taken, fun agree => ?_⟩
          have stands := Snapshot.collection_built key old
          have same := agree old (.inl rfl)
          rw [← stands] at same
          exact congrArg _ same
        · exact ⟨shows, fun _ => rfl⟩

theorem Shows.answer (shows : store.Shows snapshots) (call : StoreCall K) :
    (store.answer call).2.Shows (snapshots.answer call).2 ∧
      (snapshots.IsSized → call.IsSized → call.IsInRange →
        (store.answer call).1 = (snapshots.answer call).1) := by
  have few : ∀ {key entries built}, snapshots.IsSized → entries.length ≤ maxPosition →
      snapshots.snapshot key = some (.built built) ∨ built = entries →
        built.length ≤ maxPosition := by
    intro key entries built sized small taken
    rcases taken with taken | rfl
    · exact sized key built taken
    · exact small
  cases call with
  | add key entries =>
      refine ⟨?_, fun _ _ _ => rfl⟩
      dsimp only [CollectionStore.answer, Snapshots.answer]
      split
      · rename_i member
        rwa [add_of_registered (shows.mem_keys.mp member)]
      · rename_i absent
        exact shows.add (mt shows.mem_keys.mpr absent) entries
  | remove key =>
      dsimp only [CollectionStore.answer, Snapshots.answer]
      split
      · rename_i member
        obtain ⟨after, removed, shows⟩ := shows.remove (shows.mem_keys.mp member)
        rw [removed]
        exact ⟨shows, fun _ _ _ => rfl⟩
      · rename_i absent
        rw [remove_of_unregistered (mt shows.mem_keys.mpr absent)]
        exact ⟨shows, fun _ _ _ => rfl⟩
  | reset key =>
      dsimp only [CollectionStore.answer, Snapshots.answer]
      split
      · rename_i member
        obtain ⟨after, reset, shows⟩ := shows.resetKey (shows.mem_keys.mp member)
        rw [reset]
        exact ⟨shows, fun _ _ _ => rfl⟩
      · rename_i absent
        rw [reset_of_unregistered (mt shows.mem_keys.mpr absent)]
        exact ⟨shows, fun _ _ _ => rfl⟩
  | resetStream stream => exact ⟨shows.resetStream stream, fun _ _ _ => rfl⟩
  | resetAll =>
      exact ⟨shows.resetWhere (fun _ => true) (fun _ _ => true) fun _ _ => rfl, fun _ _ _ => rfl⟩
  | dropDense =>
      have wasteful := fun (key : CollectionSpec K) (snapshot : Snapshot) =>
        snapshot.isWasteful_collection key
      exact ⟨shows.resetWhere _ _ wasteful,
        fun _ _ _ => congrArg StoreAnswer.count (shows.countP _ _ wasteful).symm⟩
  | removeStream stream => exact ⟨shows.keep (·.stream ≠ stream), fun _ _ _ => rfl⟩
  | find key => exact ⟨shows, fun _ _ _ => congrArg StoreAnswer.collection (shows.found key)⟩
  | size => exact ⟨shows, fun _ _ _ => congrArg StoreAnswer.count shows.size.symm⟩
  | isEmpty => exact ⟨shows, fun _ _ _ => congrArg StoreAnswer.flag shows.isEmpty⟩
  | firstFrom key entries window =>
      obtain ⟨later, same⟩ := shows.query key entries (·.firstFrom window) _
      exact ⟨later, fun sized small _ =>
        same fun _ taken => Collection.firstFrom_look (few sized small taken)⟩
  | lastUpTo key entries window =>
      obtain ⟨later, same⟩ := shows.query key entries (·.lastUpTo window) _
      exact ⟨later, fun sized small inRange =>
        same fun _ taken => Collection.lastUpTo_look (few sized small taken) inRange⟩

theorem Shows.run (shows : store.Shows snapshots) (sized : snapshots.IsSized)
    {calls : List (StoreCall K)} (small : ∀ call ∈ calls, call.IsSized) :
    (answerAll CollectionStore.answer store calls).2.Shows
        (answerAll Snapshots.answer snapshots calls).2 ∧
      ∀ (place : Nat) (call : StoreCall K), calls[place]? = some call → call.IsInRange →
        (answerAll CollectionStore.answer store calls).1[place]? =
          (answerAll Snapshots.answer snapshots calls).1[place]? := by
  -- each call hands both the agreement and the bound on the entries to the next
  induction calls generalizing store snapshots with
  | nil => exact ⟨shows, nofun⟩
  | cons first others ih =>
      obtain ⟨smallFirst, smallOthers⟩ := List.forall_mem_cons.mp small
      have same := shows.answer first
      obtain ⟨later, answers⟩ := ih same.1 (sized.answer smallFirst) smallOthers
      refine ⟨later, ?_⟩
      intro place call called inRange
      cases place with
      | zero =>
          obtain rfl : first = call := Option.some.inj called
          exact congrArg some (same.2 sized smallFirst inRange)
      | succ place => exact answers place call called inRange

/-- Whatever the calls are, the store stands for the snapshots afterwards, and a call in range gets
the same answer from both. -/
theorem shows_snapshots {calls : List (StoreCall K)} (small : ∀ call ∈ calls, call.IsSized) :
    (answerAll CollectionStore.answer {} calls).2.Shows
        (answerAll Snapshots.answer .empty calls).2 ∧
      ∀ (place : Nat) (call : StoreCall K), calls[place]? = some call → call.IsInRange →
        (answerAll CollectionStore.answer {} calls).1[place]? =
          (answerAll Snapshots.answer .empty calls).1[place]? :=
  shows_empty.run (fun _ _ taken => nomatch taken) small

/-- A query for other entries than the store was built from, one that finds it stale, and one that
builds it anew. -/
def taskCalls : List (StoreCall ExtraCondition) :=
  [.add CollectionSpec.taskKey CollectionSpec.taskEntries,
   .lastUpTo CollectionSpec.taskKey CollectionSpec.taskEntries.reverse ⟨1, 1⟩,
   .firstFrom CollectionSpec.taskKey [] ⟨0, 1⟩,
   .resetStream ⟨0, 0⟩,
   .firstFrom CollectionSpec.taskKey (CollectionSpec.taskEntries.drop 1) ⟨0, 1⟩]

theorem shows_snapshots_of_taskCalls :
    (answerAll CollectionStore.answer {} taskCalls).2.Shows
        (answerAll Snapshots.answer .empty taskCalls).2 ∧
      (answerAll CollectionStore.answer {} taskCalls).1[1]? =
        some (.position (some 0)) ∧
      (answerAll CollectionStore.answer {} taskCalls).1[2]? =
        some (.fault (.stale 3 0)) ∧
      (answerAll CollectionStore.answer {} taskCalls).1[4]? =
        some (.position (some 1)) := by
  have small : ∀ call ∈ taskCalls, call.IsSized := by
    simp only [taskCalls, List.forall_mem_cons, List.not_mem_nil, false_implies, implies_true,
      StoreCall.IsSized]
    decide
  obtain ⟨shows, answers⟩ := shows_snapshots small
  refine ⟨shows, (answers 1 _ rfl (.inr (by decide))).trans ?_,
    (answers 2 _ rfl trivial).trans ?_, (answers 4 _ rfl trivial).trans ?_⟩
  · decide
  · decide
  · decide

end CollectionStore

end KernelTrace
