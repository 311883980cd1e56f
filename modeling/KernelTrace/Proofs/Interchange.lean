import KernelTrace.Proofs.Rounds
import KernelTrace.Proofs.Runs

/-! Merging and recomputing visibility may change places: a merge goes by times alone, and a recompute
leaves the times alone and goes by each entry and its stream. -/

namespace KernelTrace

inductive Recompute
  | ofStream (handle : Handle)
  | ofAll
  | clear

namespace Recompute

variable {S H K : Type} {recompute : Recompute} {session after : Session S H K}
  {entries made first second : List Entry} {lists remade : List (List Entry)}

def run (recompute : Recompute) (session : Session S H K) (entries : List Entry) :
    Except Fault (List Entry × Session S H K) :=
  match recompute with
  | ofStream handle => session.refilter handle entries
  | ofAll => session.refilterAll entries
  | clear => .ok (session.clearFilters entries)

def Allowed (recompute : Recompute) (session : Session S H K) (entries : List Entry) : Prop :=
  match recompute with
  | ofStream handle => session.idFilters handle = .ok (session.filtersAt handle)
  | ofAll => ∀ entry ∈ entries,
      session.idFilters entry.stream = .ok (session.filtersAt entry.stream)
  | clear => True

def change (recompute : Recompute) (session : Session S H K) (entry : Entry) : Entry :=
  match recompute with
  | ofStream handle =>
    if entry.stream = handle then
      (session.filtersAt handle).reapply session.settings.filterMask entry
    else entry
  | ofAll => (session.filtersAt entry.stream).reapply session.settings.filterMask entry
  | clear => entry.unfiltered

def leaves (recompute : Recompute) (session : Session S H K) (entries : List Entry) :
    Session S H K :=
  match recompute with
  | ofStream handle => { session with collections := session.collections.resetStream handle }
  | ofAll => { session with collections := session.collections.resetStreams (streamsOf entries) }
  | clear =>
    { session with
      streams := session.streams.mapStreams fun stream => { stream with filters := {} }
      collections := session.collections.resetAll }

theorem run_of_allowed (allowed : recompute.Allowed session entries) :
    recompute.run session entries =
      .ok (entries.map (recompute.change session), recompute.leaves session entries) := by
  cases recompute with
  | ofStream handle => exact Session.refilter_of_ok allowed
  | ofAll => exact Session.refilterAll_of_ok allowed
  | clear => rfl

theorem allowed_of_run (done : recompute.run session entries = .ok (made, after)) :
    recompute.Allowed session entries := by
  cases recompute with
  | ofStream handle => exact (Session.refilter_eq_ok done).1
  | ofAll => exact (Session.refilterAll_eq_ok done).1
  | clear => exact trivial

theorem made_of_run (done : recompute.run session entries = .ok (made, after)) :
    made = entries.map (recompute.change session) := by
  rw [run_of_allowed (allowed_of_run done)] at done
  cases done
  rfl

theorem change_ts (recompute : Recompute) (session : Session S H K) (entry : Entry) :
    (recompute.change session entry).ts = entry.ts := by
  cases recompute with
  | ofStream handle =>
      rw [change]
      split
      · exact Filters.reapply_ts _ _ entry
      · rfl
  | ofAll => exact Filters.reapply_ts _ _ entry
  | clear => rfl

theorem change_leaves (recompute : Recompute) (session : Session S H K) (entries : List Entry) :
    recompute.change (recompute.leaves session entries) = recompute.change session := by
  cases recompute <;> rfl

theorem allowed_leaves :
    recompute.Allowed (recompute.leaves session first) second ↔
      recompute.Allowed session second := by
  cases recompute <;> rfl

theorem leaves_leaves (recompute : Recompute) (session : Session S H K)
    (first second : List Entry) :
    recompute.leaves (recompute.leaves session first) second =
      recompute.leaves session (first ++ second) := by
  cases recompute with
  | ofStream handle =>
      have twice : session.collections.resetStreams [handle, handle] =
          session.collections.resetStreams [handle] :=
        CollectionStore.resetStreams_congr (by simp)
      exact congrArg (fun collections => { session with collections }) twice
  | ofAll =>
      -- a stream of both lists is reset twice, which is as good as once
      have joined : (session.collections.resetStreams (streamsOf first)).resetStreams
          (streamsOf second) =
            session.collections.resetStreams (streamsOf first ++ streamsOf second) :=
        List.foldl_append.symm
      have streams : session.collections.resetStreams (streamsOf first ++ streamsOf second) =
          session.collections.resetStreams (streamsOf (first ++ second)) := by
        apply CollectionStore.resetStreams_congr
        intro handle
        simp only [List.mem_append, mem_streamsOf, or_and_right, exists_or]
      exact congrArg (fun collections => { session with collections }) (joined.trans streams)
  | clear =>
      have resets : session.collections.resetAll.resetAll = session.collections.resetAll := by
        rw [CollectionStore.resetAll, CollectionStore.resetAll, List.map_map]
        rfl
      simp only [leaves, Registry.mapStreams_mapStreams, resets]
      rfl

theorem leaves_congr (same : ∀ entry, entry ∈ first ↔ entry ∈ second) :
    recompute.leaves session first = recompute.leaves session second := by
  cases recompute with
  | ofStream handle => rfl
  | ofAll =>
      have streams : session.collections.resetStreams (streamsOf first) =
          session.collections.resetStreams (streamsOf second) := by
        apply CollectionStore.resetStreams_congr
        intro handle
        simp only [mem_streamsOf, same]
      exact congrArg (fun collections => { session with collections }) streams
  | clear => rfl

def runEach (recompute : Recompute) (session : Session S H K) :
    List (List Entry) → Except Fault (List (List Entry) × Session S H K)
  | [] => .ok ([], session)
  | entries :: lists => do
    let (made, middle) ← recompute.run session entries
    let (others, after) ← recompute.runEach middle lists
    pure (made :: others, after)

theorem runEach_of_allowed (allowed : ∀ entries ∈ lists, recompute.Allowed session entries) :
    recompute.runEach session lists =
      .ok (lists.map (List.map (recompute.change session)),
        lists.foldl recompute.leaves session) := by
  induction lists generalizing session with
  | nil => rfl
  | cons entries lists ih =>
      obtain ⟨first, others⟩ := List.forall_mem_cons.mp allowed
      have rest : ∀ other ∈ lists,
          recompute.Allowed (recompute.leaves session entries) other :=
        fun other member => allowed_leaves.mpr (others other member)
      rw [runEach, run_of_allowed first]
      have later := ih rest
      rw [change_leaves] at later
      change (recompute.runEach (recompute.leaves session entries) lists >>= _) = _
      rw [later]
      rfl

theorem foldl_leaves (entries : List Entry) (lists : List (List Entry)) :
    lists.foldl recompute.leaves (recompute.leaves session entries) =
      recompute.leaves session (entries ++ lists.flatten) := by
  induction lists generalizing entries with
  | nil => rw [List.foldl_nil, List.flatten_nil, List.append_nil]
  | cons other lists ih =>
      rw [List.foldl_cons, leaves_leaves, ih, List.flatten_cons, List.append_assoc]

theorem allowed_mergeLanes (each : ∀ entries ∈ lists, recompute.Allowed session entries)
    (alone : lists = [] → recompute.Allowed session []) :
    recompute.Allowed session (mergeLanes lists) := by
  cases recompute with
  | ofStream handle =>
      cases lists with
      | nil => exact alone rfl
      | cons entries lists => exact each entries List.mem_cons_self
  | ofAll =>
      intro entry member
      obtain ⟨entries, listed, here⟩ := mem_mergeLanes.mp member
      exact each entries listed entry here
  | clear => exact trivial

theorem run_mergeLanes (each : ∀ entries ∈ lists, recompute.Allowed session entries)
    (alone : lists = [] → recompute.Allowed session []) :
    recompute.run session (mergeLanes lists) =
      .ok (mergeLanes (lists.map (List.map (recompute.change session))),
        recompute.leaves session lists.flatten) := by
  rw [run_of_allowed (allowed_mergeLanes each alone),
    mergeLanes_map (recompute.change_ts session)]
  have members : ∀ entry, entry ∈ mergeLanes lists ↔ entry ∈ lists.flatten :=
    fun _ => (mergeLanes_perm lists).mem_iff
  rw [leaves_congr members]

theorem isOrdered_change (ordered : isOrdered entries) :
    isOrdered (entries.map (recompute.change session)) := by
  rw [isOrdered_iff, List.pairwise_map]
  simp only [notLater, change_ts]
  exact isOrdered_iff.mp ordered

theorem made_of_each (done : List.Forall₂ (fun entries now =>
      ∃ after, recompute.run session entries = .ok (now, after)) lists remade) :
    (∀ entries ∈ lists, recompute.Allowed session entries) ∧
      remade = lists.map (List.map (recompute.change session)) := by
  induction done with
  | nil => exact ⟨List.forall_mem_nil _, rfl⟩
  | cons first _ ih =>
      obtain ⟨after, first⟩ := first
      obtain ⟨allowed, rfl⟩ := ih
      exact ⟨List.forall_mem_cons.mpr ⟨allowed_of_run first, allowed⟩,
        congrArg (· :: _) (made_of_run first)⟩

theorem lanes_commute (done : List.Forall₂ (fun entries now =>
      ∃ after, recompute.run session entries = .ok (now, after)) lists remade)
    (alone : lists = [] → ∃ result, recompute.run session [] = .ok result) :
    ∃ after, recompute.run session (mergeLanes lists) = .ok (mergeLanes remade, after) ∧
      (lists ≠ [] → recompute.runEach session lists = .ok (remade, after)) := by
  obtain ⟨allowed, rfl⟩ := made_of_each done
  have allowedAlone : lists = [] → recompute.Allowed session [] := by
    intro empty
    obtain ⟨_, went⟩ := alone empty
    exact allowed_of_run went
  refine ⟨_, run_mergeLanes allowed allowedAlone, fun some => ?_⟩
  rw [runEach_of_allowed allowed]
  cases lists with
  | nil => exact absurd rfl some
  | cons entries lists => rw [List.foldl_cons, foldl_leaves, List.flatten_cons]

/-- It makes no difference whether entries are merged and then recomputed, or recomputed and then
merged. Where each part can be recomputed the whole can be too, whatever the recompute, and the
merge of the parts is the same to the last mask, in any session and whatever the times. The session is
left as it is by recomputing the parts one after the other.

The merge is of two lists, also by copying runs of ordered ones, or of any number of lists. Of no
lists it is empty, and a recompute of no entries must go through. -/
theorem recompute_commutes_with_merging (recompute : Recompute) (session : Session S H K) :
    (∀ {first second left right : List Entry},
      (∃ after, recompute.run session first = .ok (left, after)) →
      (∃ after, recompute.run session second = .ok (right, after)) →
      ∃ after, recompute.run session (mergePair first second) = .ok (mergePair left right, after) ∧
        recompute.runEach session [first, second] = .ok ([left, right], after) ∧
        (isOrdered first → isOrdered second →
          recompute.run session (mergeRuns first second) = .ok (mergeRuns left right, after))) ∧
    ∀ {lists remade : List (List Entry)},
      List.Forall₂ (fun entries now => ∃ after, recompute.run session entries = .ok (now, after))
        lists remade →
      (lists = [] → ∃ result, recompute.run session [] = .ok result) →
      ∃ after, recompute.run session (mergeLanes lists) = .ok (mergeLanes remade, after) ∧
        (lists ≠ [] → recompute.runEach session lists = .ok (remade, after)) := by
  refine ⟨fun {first second left right} one two => ?_, lanes_commute⟩
  obtain ⟨after, merged, inTurn⟩ :=
    lanes_commute (.cons one (.cons two .nil)) fun empty => nomatch empty
  rw [mergeLanes_pair, mergeLanes_pair] at merged
  refine ⟨after, merged, inTurn (List.cons_ne_nil _ _), fun ordered orderedToo => ?_⟩
  obtain ⟨_, one⟩ := one
  obtain ⟨_, two⟩ := two
  have orderedLeft : isOrdered left := by
    rw [made_of_run one]
    exact isOrdered_change ordered
  have orderedRight : isOrdered right := by
    rw [made_of_run two]
    exact isOrdered_change orderedToo
  rw [mergeRuns_eq_mergePair ordered orderedToo, mergeRuns_eq_mergePair orderedLeft orderedRight]
  exact merged

def tiedFirst : List Entry :=
  [⟨⟨0, 0⟩, 0, 5, 1, 10, 0, View.all⟩, ⟨⟨0, 0⟩, 0, 4, 1, 20, 1, View.all⟩]

def tiedLast : List Entry :=
  [⟨⟨1, 0⟩, 0, 5, 1, 10, 0, View.all⟩, ⟨⟨0, 0⟩, 1, 5, 1, 20, 2, View.all⟩]

def dimmedFirst : List Entry :=
  [⟨⟨0, 0⟩, 0, 5, 1, 10, 0, 0xF8⟩, ⟨⟨0, 0⟩, 0, 4, 1, 20, 1, View.all⟩]

def dimmedLast : List Entry :=
  [⟨⟨1, 0⟩, 0, 5, 1, 10, 0, View.all⟩, ⟨⟨0, 0⟩, 1, 5, 1, 20, 2, 0xF8⟩]

theorem recompute_commutes_with_merging_tied :
    (∃ after, ofAll.run Session.narrowedSession (mergePair tiedFirst tiedLast) =
        .ok (mergePair dimmedFirst dimmedLast, after) ∧
      ofAll.run Session.narrowedSession (mergeRuns tiedFirst tiedLast) =
        .ok (mergeRuns dimmedFirst dimmedLast, after)) ∧
    ∃ after, ofAll.run Session.narrowedSession (mergeLanes [tiedLast, tiedFirst, tiedLast]) =
        .ok (mergeLanes [dimmedLast, dimmedFirst, dimmedLast], after) ∧
      ofAll.runEach Session.narrowedSession [tiedLast, tiedFirst, tiedLast] =
        .ok ([dimmedLast, dimmedFirst, dimmedLast], after) := by
  have first : ∃ after, ofAll.run Session.narrowedSession tiedFirst = .ok (dimmedFirst, after) := by
    have allowed : ofAll.Allowed Session.narrowedSession tiedFirst :=
      List.forall_mem_cons.mpr ⟨rfl, List.forall_mem_singleton.mpr rfl⟩
    exact ⟨_, run_of_allowed allowed⟩
  have last : ∃ after, ofAll.run Session.narrowedSession tiedLast = .ok (dimmedLast, after) := by
    have allowed : ofAll.Allowed Session.narrowedSession tiedLast :=
      List.forall_mem_cons.mpr ⟨rfl, List.forall_mem_singleton.mpr rfl⟩
    exact ⟨_, run_of_allowed allowed⟩
  obtain ⟨pairs, lanes⟩ := recompute_commutes_with_merging ofAll Session.narrowedSession
  obtain ⟨after, merged, _, runs⟩ := pairs first last
  obtain ⟨afterLanes, mergedLanes, inTurn⟩ :=
    lanes (.cons last (.cons first (.cons last .nil))) fun empty => nomatch empty
  exact ⟨⟨after, merged, runs (by decide) (by decide)⟩, afterLanes, mergedLanes,
    inTurn (List.cons_ne_nil _ _)⟩

end Recompute

end KernelTrace
