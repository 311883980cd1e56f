import KernelTrace.Proofs.Frames

/-! Recomputing all streams at once, and one stream after the other. Both come to the same in any
order, and where one of the streams does not allow it nothing is changed at all. -/

namespace KernelTrace

namespace Handle

variable {a b : Handle}

/-- Handles in one number: the slot counts for more than any generation. -/
def rank (handle : Handle) : Nat :=
  handle.slot.toNat * UInt32.size + handle.generation.toNat

theorem precedes_iff : a.precedes b ↔ a.rank < b.rank := by
  have low := a.generation.toNat_lt_size
  have lowToo := b.generation.toNat_lt_size
  rw [UInt32.size] at low lowToo
  simp only [precedes, rank, UInt32.size, Bool.or_eq_true, Bool.and_eq_true, decide_eq_true_eq,
    UInt16.lt_iff_toNat_lt, UInt32.lt_iff_toNat_lt, ← UInt16.toNat_inj]
  omega

end Handle

theorem streamsOf_ascending (entries : List Entry) :
    (streamsOf entries).Pairwise fun a b => ¬ b.precedes a := by
  have ascending : (streamsOf entries).Pairwise fun a b => !b.precedes a := by
    apply List.pairwise_mergeSort
    · intro a b c first second
      simp only [Bool.not_eq_true', ← Bool.not_eq_true, Handle.precedes_iff] at first second ⊢
      omega
    · intro a b
      by_cases before : b.precedes a
      · have after : ¬ a.precedes b := by
          rw [Handle.precedes_iff] at before ⊢
          omega
        simp [after]
      · simp [before]
  exact ascending.imp fun behind => by simpa using behind

theorem Filters.reapply_reapply (filters : Filters) (mask : UInt8) (entry : Entry) :
    filters.reapply mask (filters.reapply mask entry) = filters.reapply mask entry := by
  by_cases lost : entry.isLost
  · rw [reapply_of_lost lost, reapply_of_lost lost]
  · have again : filters.visibility (filters.reapply mask entry) mask =
        filters.visibility entry mask := by
      obtain ⟨visible, same⟩ := filters.reapply_eq mask entry
      rw [same]
      rfl
    rw [reapply, reapply_isLost, if_neg lost, again]
    simp only [reapply, if_neg lost, keepTouch_keepTouch id]

namespace Session

variable {S H K : Type} {session : Session S H K} {entries : List Entry} {handle : Handle}
  {order : List Handle}

def reapplyAmong (session : Session S H K) (order : List Handle) (entry : Entry) : Entry :=
  if entry.stream ∈ order then
    (session.filtersAt entry.stream).reapply session.settings.filterMask entry
  else entry

theorem reapplyAmong_nil (entry : Entry) : session.reapplyAmong [] entry = entry :=
  if_neg List.not_mem_nil

theorem reapplyAmong_cons (handle : Handle) (order : List Handle) (entries : List Entry) :
    ((entries.map fun entry => if entry.stream = handle then
        (session.filtersAt handle).reapply session.settings.filterMask entry else entry).map
          (session.reapplyAmong order)) =
      entries.map (session.reapplyAmong (handle :: order)) := by
  rw [List.map_map]
  apply List.map_congr_left
  intro entry _
  rw [Function.comp_apply]
  by_cases own : entry.stream = handle
  · -- a stream that comes again later is recomputed again, to the same masks
    rw [if_pos own, ← own, reapplyAmong, Filters.reapply_stream, Filters.reapply_reapply, ite_self,
      reapplyAmong, if_pos List.mem_cons_self]
  · rw [if_neg own, reapplyAmong, reapplyAmong]
    simp only [List.mem_cons, own, false_or]

/-- One stream after the other, up to the first that does not allow it. -/
def refilterInTurn (session : Session S H K) :
    List Handle → List Entry → Except Fault (List Entry × Session S H K)
  | [], entries => .ok (entries, session)
  | handle :: order, entries => do
    let (refiltered, after) ← session.refilter handle entries
    after.refilterInTurn order refiltered

theorem refilterInTurn_of_ok
    (allowed : ∀ handle ∈ order, session.idFilters handle = .ok (session.filtersAt handle)) :
    session.refilterInTurn order entries = .ok (entries.map (session.reapplyAmong order),
      { session with collections := session.collections.resetStreams order }) := by
  induction order generalizing session entries with
  | nil =>
      rw [List.map_congr_left fun entry _ => reapplyAmong_nil entry, List.map_id']
      rfl
  | cons first order ih =>
      obtain ⟨here, later⟩ := List.forall_mem_cons.mp allowed
      let middle := { session with collections := session.collections.resetStream first }
      have rest : middle.refilterInTurn order (entries.map fun entry =>
            if entry.stream = first then
              (session.filtersAt first).reapply session.settings.filterMask entry
            else entry) =
          .ok ((entries.map _).map (session.reapplyAmong order), { session with
            collections := (session.collections.resetStream first).resetStreams order }) := ih later
      rw [reapplyAmong_cons] at rest
      rw [refilterInTurn, refilter_of_ok here]
      exact rest

theorem refilter_eq_error {fault : Fault} :
    session.refilter handle entries = .error fault ↔ session.idFilters handle = .error fault :=
  map_eq_error

theorem refilter_goes_through :
    (∃ result, session.refilter handle entries = .ok result) ↔
      session.idFilters handle = .ok (session.filtersAt handle) :=
  ⟨fun ⟨_, done⟩ => (refilter_eq_ok done).1, fun allowed => ⟨_, refilter_of_ok allowed⟩⟩

theorem refilterAll_goes_through :
    (∃ result, session.refilterAll entries = .ok result) ↔ ∀ entry ∈ entries,
      session.idFilters entry.stream = .ok (session.filtersAt entry.stream) :=
  ⟨fun ⟨_, done⟩ => (refilterAll_eq_ok done).1, fun allowed => ⟨_, refilterAll_of_ok allowed⟩⟩

/-- All streams at once are the same as one after the other. -/
theorem refilterInTurn_of_refilterAll {refiltered : List Entry} {after : Session S H K}
    (done : session.refilterAll entries = .ok (refiltered, after))
    (streams : ∀ handle, handle ∈ order ↔ ∃ entry ∈ entries, entry.stream = handle) :
    session.refilterInTurn order entries = .ok (refiltered, after) := by
  obtain ⟨allowed, rfl, rfl⟩ := refilterAll_eq_ok done
  have allowedToo : ∀ handle ∈ order,
      session.idFilters handle = .ok (session.filtersAt handle) := by
    intro handle member
    obtain ⟨entry, present, rfl⟩ := (streams handle).mp member
    exact allowed entry present
  have among : entries.map (session.reapplyAmong order) = entries.map fun entry =>
      (session.filtersAt entry.stream).reapply session.settings.filterMask entry :=
    List.map_congr_left fun entry present =>
      if_pos ((streams entry.stream).mpr ⟨entry, present, rfl⟩)
  have reset : session.collections.resetStreams order =
      session.collections.resetStreams (streamsOf entries) :=
    CollectionStore.resetStreams_congr fun handle => (streams handle).trans mem_streamsOf.symm
  rw [refilterInTurn_of_ok allowedToo, among, reset]

theorem refilterAll_eq_error {fault : Fault}
    (failed : session.refilterAll entries = .error fault) :
    ∃ failing ∈ entries, session.idFilters failing.stream = .error fault ∧
      ∀ entry ∈ entries, entry.stream.precedes failing.stream →
        session.idFilters entry.stream = .ok (session.filtersAt entry.stream) := by
  cases checked : (streamsOf entries).forM fun handle =>
      (session.idFilters handle).map fun _ => () with
  | ok =>
      rw [refilterAll_of_ok (checked_eq_ok.mp checked)] at failed
      cases failed
  | error cause =>
      rw [refilterAll, checked] at failed
      cases failed
      obtain ⟨done, item, rest, parts, passed, fails⟩ := forM_eq_error checked
      have ascending := streamsOf_ascending entries
      rw [parts] at ascending
      have behind := (List.pairwise_cons.mp (List.pairwise_append.mp ascending).2.1).1
      have present : item ∈ streamsOf entries := by
        rw [parts]
        exact List.mem_append_right done List.mem_cons_self
      obtain ⟨failing, listed, rfl⟩ := mem_streamsOf.mp present
      refine ⟨failing, listed, map_eq_error.mp fails, ?_⟩
      intro entry member before
      have among : entry.stream ∈ done ++ failing.stream :: rest := by
        rw [← parts]
        exact mem_streamsOf.mpr ⟨entry, member, rfl⟩
      rcases List.mem_append.mp among with early | late
      · obtain ⟨filters, found, _⟩ := map_eq_ok.mp (passed _ early)
        rw [found, filtersAt_of_ok found]
      · rcases List.mem_cons.mp late with same | later
        · rw [same, Handle.precedes_iff] at before
          exact absurd before (Nat.lt_irrefl _)
        · exact absurd before (behind _ later)

/-- Recomputing all streams at once goes through where recomputing each stream would.

* Then it leaves the entries, and of each collection the index or none, as the streams do one after
  the other, in any order.
* Otherwise the first stream, by slot and then by generation, that does not allow a recompute gives
  the fault, and no entry and nothing in the session has changed. -/
theorem refilterAll_is_in_turn (session : Session S H K) (entries : List Entry) :
    ((∃ result, session.refilterAll entries = .ok result) ↔
      ∀ entry ∈ entries, ∃ result, session.refilter entry.stream entries = .ok result) ∧
    (∀ {refiltered after}, session.refilterAll entries = .ok (refiltered, after) →
      session.refilterAllInPlace entries = (.ok (), refiltered, after) ∧
      ∀ order, (∀ handle, handle ∈ order ↔ ∃ entry ∈ entries, entry.stream = handle) →
        session.refilterInTurn order entries = .ok (refiltered, after)) ∧
    ∀ {fault}, session.refilterAll entries = .error fault →
      session.refilterAllInPlace entries = (.error fault, entries, session) ∧
      ∃ failing ∈ entries, session.refilter failing.stream entries = .error fault ∧
        ∀ entry ∈ entries, entry.stream.precedes failing.stream →
          ∃ result, session.refilter entry.stream entries = .ok result := by
  refine ⟨?_, fun done => ?_, fun failed => ?_⟩
  · simp only [refilter_goes_through, refilterAll_goes_through]
  · rw [refilterAllInPlace_eq, done]
    exact ⟨rfl, fun order streams => refilterInTurn_of_refilterAll done streams⟩
  · simp only [refilter_goes_through, refilter_eq_error]
    rw [refilterAllInPlace_eq, failed]
    exact ⟨rfl, refilterAll_eq_error failed⟩

def strayEntries : List Entry :=
  [⟨⟨2, 0⟩, 0, 4, 1, 5, 0, View.all⟩, ⟨⟨0, 0⟩, 0, 5, 1, 10, 0, View.all⟩,
   ⟨⟨1, 0⟩, 0, 9, 1, 20, 0, View.all⟩]

/-- The second stream may come first. And the stream that was never opened is not the first that
does not allow a recompute, though its entry is. -/
theorem refilterAll_is_in_turn_strayEntries :
    (∃ after, narrowedSession.refilterAllInPlace mixedEntries = (.ok (), dimmedEntries, after) ∧
      narrowedSession.refilterInTurn [⟨1, 0⟩, ⟨0, 0⟩] mixedEntries = .ok (dimmedEntries, after)) ∧
    pickySession.refilterAllInPlace strayEntries =
      (.error (.contentFiltered ⟨0, 0⟩), strayEntries, pickySession) := by
  constructor
  · have streams : ∀ handle, handle ∈ [(⟨1, 0⟩ : Handle), ⟨0, 0⟩] ↔
        ∃ entry ∈ mixedEntries, entry.stream = handle := by
      intro handle
      simp [mixedEntries, or_comm, eq_comm]
    obtain ⟨goes, agrees, _⟩ := refilterAll_is_in_turn narrowedSession mixedEntries
    have each : ∀ entry ∈ mixedEntries,
        ∃ result, narrowedSession.refilter entry.stream mixedEntries = .ok result := by
      rw [mixedEntries, List.forall_mem_cons, List.forall_mem_cons, List.forall_mem_singleton]
      exact ⟨⟨_, rfl⟩, ⟨_, rfl⟩, ⟨_, rfl⟩⟩
    obtain ⟨⟨refiltered, after⟩, done⟩ := goes.mpr each
    obtain ⟨written, turns⟩ := agrees done
    have turned := turns _ streams
    have dimmed : narrowedSession.refilterInTurn [⟨1, 0⟩, ⟨0, 0⟩] mixedEntries =
        .ok (dimmedEntries, _) := rfl
    rw [dimmed] at turned
    cases turned
    exact ⟨_, written, dimmed⟩
  · obtain ⟨goes, _, stops⟩ := refilterAll_is_in_turn pickySession strayEntries
    have content : pickySession.refilter ⟨0, 0⟩ strayEntries =
        .error (.contentFiltered ⟨0, 0⟩) := rfl
    have tested : (⟨⟨0, 0⟩, 0, 5, 1, 10, 0, View.all⟩ : Entry) ∈ strayEntries := by decide
    rcases outcome : pickySession.refilterAll strayEntries with fault | result
    · obtain ⟨unchanged, failing, member, fails, before⟩ := stops outcome
      rw [strayEntries, List.mem_cons, List.mem_cons, List.mem_singleton] at member
      rcases member with stray | own | other
      · rw [stray] at before
        obtain ⟨_, done⟩ := before _ tested (by decide)
        cases done
      · rw [own, content] at fails
        cases fails
        exact unchanged
      · rw [other] at fails
        cases fails
    · obtain ⟨_, done⟩ := goes.mp ⟨result, outcome⟩ _ tested
      cases done

end Session

end KernelTrace
