import KernelTrace.Proofs.Recalls

/-! What a recompute of visibility leaves alone, and that it forgets the masks that it found. Only
view bits change, and they follow from the filters and the filter mask of the time. -/

namespace KernelTrace

namespace Filters

variable {filters : Filters} {mask : UInt8} {entry other : Entry}

theorem reapply_of_lost (lost : entry.isLost) : filters.reapply mask entry = entry := by
  rw [reapply, if_pos lost]

theorem bitOf_reapply {i : Nat} (bound : i < 8) (kept : ¬ entry.isLost) :
    bitOf (filters.reapply mask entry).visible i =
      (bitOf (filters.visibility entry mask) i && (bitOf entry.visible i || decide (i ≠ 7))) := by
  rw [reapply, if_neg kept, bitOf_keepTouch bound]

theorem touch_of_reapply (clear : mask &&& View.untouched = 0) :
    bitOf (filters.reapply mask entry).visible 7 = bitOf entry.visible 7 := by
  by_cases lost : entry.isLost
  · rw [reapply_of_lost lost]
  · rw [bitOf_reapply (by decide) lost, visibility, restrict_keeps_touch clear,
      bitOf_all (by decide)]
    simp

theorem reapply_congr (same : entry.unfiltered = other.unfiltered) (kept : ¬ entry.isLost) :
    filters.reapply mask entry = filters.reapply mask other := by
  have keptToo : ¬ other.isLost := by rwa [← Entry.isLost_of_unfiltered same]
  calc filters.reapply mask entry
    _ = filters.reapply mask entry.unfiltered :=
      (filters.reapply_unfiltered mask fun lost => absurd lost kept).symm
    _ = filters.reapply mask other.unfiltered := by rw [same]
    _ = filters.reapply mask other :=
      filters.reapply_unfiltered mask fun lost => absurd lost keptToo

end Filters

theorem keepTouch_all (visible : UInt8) : keepTouch visible View.all = visible ||| 0x7F := by
  have views : ∀ i, i < 8 → bitOf 0x7F i = decide (i ≠ 7) := by decide
  apply eq_of_bits
  intro i bound
  rw [bitOf_keepTouch bound, bitOf_all bound, Bool.true_and, bitOf_or, views i bound]

namespace Session

variable {S H K σ : Type} {session later after : Session S H K} {covers : Handle → Prop}
  {old new entry : Entry} {array list refiltered : List Entry} {handle : Handle}

/-- What a recompute that covers the entries of some streams makes of an entry. The mask is all that
changes, and the plugin bit stays. Loss markers and entries of other streams stay as they are. The
view bits of all others are those that the filters of their streams give them now. -/
structure Recomputed (session : Session S H K) (covers : Handle → Prop) (old new : Entry) :
    Prop where
  frame : ∃ visible, new = { old with visible }
  touch : bitOf new.visible 7 = bitOf old.visible 7
  marker : old.isLost → new = old
  foreign : ¬ covers old.stream → new = old
  views : ¬ old.isLost → covers old.stream → ∃ stream, session.stream old.stream = .ok stream ∧
    ∀ bit, bit < 7 → bitOf new.visible bit =
      bitOf (stream.filters.visibility old session.settings.filterMask) bit

theorem recomputed_of_foreign (foreign : ¬ covers entry.stream) :
    session.Recomputed covers entry entry :=
  ⟨⟨_, rfl⟩, rfl, fun _ => rfl, fun _ => rfl, fun _ covered => absurd covered foreign⟩

theorem recomputed_of_reapply (sound : session.Sound)
    (allowed : session.idFilters entry.stream = .ok (session.filtersAt entry.stream))
    (covered : covers entry.stream) :
    session.Recomputed covers entry
      ((session.filtersAt entry.stream).reapply session.settings.filterMask entry) where
  frame := Filters.reapply_eq _ _ entry
  touch := Filters.touch_of_reapply sound.maskClear
  marker lost := Filters.reapply_of_lost lost
  foreign foreign := absurd covered foreign
  views kept _ := by
    obtain ⟨stream, found, _, same⟩ := idFilters_eq_ok.mp allowed
    refine ⟨stream, found, fun bit bound => ?_⟩
    rw [Filters.bitOf_reapply (by omega) kept, ← same]
    simp [Nat.ne_of_lt bound]

theorem recomputed_of_refilter (sound : session.Sound)
    (done : session.refilter handle array = .ok (refiltered, after)) :
    List.Forall₂ (session.Recomputed (· = handle)) array refiltered := by
  obtain ⟨allowed, rfl, _⟩ := refilter_eq_ok done
  rw [List.forall₂_map_right_iff, List.forall₂_same]
  intro entry _
  split
  · rename_i own
    subst own
    exact recomputed_of_reapply sound allowed rfl
  · rename_i foreign
    exact recomputed_of_foreign foreign

theorem recomputed_of_refilterAll (sound : session.Sound)
    (done : session.refilterAll array = .ok (refiltered, after)) :
    List.Forall₂ (session.Recomputed fun _ => True) array refiltered := by
  obtain ⟨allowed, rfl, _⟩ := refilterAll_eq_ok done
  rw [List.forall₂_map_right_iff, List.forall₂_same]
  exact fun entry member => recomputed_of_reapply sound (allowed entry member) trivial

theorem cleared_clearFilters (session : Session S H K) (entries : List Entry) :
    List.Forall₂ (fun old new => new = { old with visible := old.visible ||| 0x7F } ∧
      bitOf new.visible 7 = bitOf old.visible 7) entries (session.clearFilters entries).1 := by
  rw [clearFilters, List.forall₂_map_right_iff, List.forall₂_same]
  intro entry _
  rw [keepTouch_all]
  refine ⟨rfl, ?_⟩
  rw [bitOf_or]
  exact Bool.or_false _

theorem streamsOf_of_unfiltered
    (same : list.map Entry.unfiltered = array.map Entry.unfiltered) :
    streamsOf list = streamsOf array := by
  rw [streamsOf, streamsOf, map_stream_of_unfiltered same]

theorem refilter_forgets (same : list.map Entry.unfiltered = array.map Entry.unfiltered)
    (done : session.refilter handle list = .ok (refiltered, after)) :
    ∃ direct, session.refilter handle array = .ok (direct, after) ∧
      List.Forall₂ (fun new direct => ¬ new.isLost → new.stream = handle → new = direct)
        refiltered direct := by
  obtain ⟨allowed, rfl, rfl⟩ := refilter_eq_ok done
  refine ⟨_, refilter_of_ok allowed, ?_⟩
  rw [List.forall₂_map_left_iff, List.forall₂_map_right_iff]
  refine (entrywise_of_unfiltered same.symm).imp fun now entry alike => ?_
  have stream := Entry.stream_of_unfiltered alike
  by_cases own : now.stream = handle
  · rw [if_pos own, if_pos (stream.trans own), Filters.reapply_isLost]
    exact fun kept _ => Filters.reapply_congr alike.symm kept
  · rw [if_neg own]
    exact fun _ here => absurd here own

theorem refilterAll_forgets (same : list.map Entry.unfiltered = array.map Entry.unfiltered)
    (done : session.refilterAll list = .ok (refiltered, after)) :
    ∃ direct, session.refilterAll array = .ok (direct, after) ∧
      List.Forall₂ (fun new direct => ¬ new.isLost → new = direct) refiltered direct := by
  obtain ⟨allowed, rfl, rfl⟩ := refilterAll_eq_ok done
  have allowedToo : ∀ entry ∈ array,
      session.idFilters entry.stream = .ok (session.filtersAt entry.stream) := by
    intro entry member
    have listed : entry.stream ∈ list.map Entry.stream := by
      rw [map_stream_of_unfiltered same]
      exact List.mem_map_of_mem member
    obtain ⟨now, present, moved⟩ := List.mem_map.mp listed
    rw [← moved]
    exact allowed now present
  have done := refilterAll_of_ok allowedToo
  rw [← streamsOf_of_unfiltered same] at done
  refine ⟨_, done, ?_⟩
  rw [List.forall₂_map_left_iff, List.forall₂_map_right_iff]
  refine (entrywise_of_unfiltered same.symm).imp fun now entry alike kept => ?_
  rw [Filters.reapply_isLost] at kept
  rw [Entry.stream_of_unfiltered alike]
  exact Filters.reapply_congr alike.symm kept

theorem clearFilters_forgets (same : list.map Entry.unfiltered = array.map Entry.unfiltered) :
    session.clearFilters list = session.clearFilters array :=
  Prod.ext same rfl

theorem Retuned.only_views (retuned : Retuned session array later list) (sound : session.Sound) :
    later.Sound ∧ list.map Entry.unfiltered = array.map Entry.unfiltered := by
  induction retuned with
  | loaded => exact ⟨sound, rfl⟩
  | masked _ masked ih =>
      obtain ⟨clear, rfl⟩ := setFilterMask_eq_ok masked
      exact ⟨⟨ih.1.coherent, clear⟩, ih.2⟩
  | filtered _ updated ih | unfiltered _ updated ih | tested _ updated ih | untested _ updated ih =>
      exact ⟨sound_of_updateStream ih.1 (fun _ => ⟨_, rfl⟩) updated, ih.2⟩
  | refiltered _ done ih =>
      obtain ⟨sound, same⟩ := ih
      have views := unfiltered_of_refilter sound.maskClear done
      obtain ⟨_, _, rfl⟩ := refilter_eq_ok done
      exact ⟨⟨sound.coherent, sound.maskClear⟩, views.trans same⟩
  | refilteredAll _ done ih =>
      obtain ⟨sound, same⟩ := ih
      have views := unfiltered_of_refilterAll sound.maskClear done
      obtain ⟨_, _, rfl⟩ := refilterAll_eq_ok done
      exact ⟨⟨sound.coherent, sound.maskClear⟩, views.trans same⟩
  | @cleared later list _ ih =>
      obtain ⟨sound, same⟩ := ih
      exact ⟨⟨sound.coherent.mapStreams fun _ => rfl, sound.maskClear⟩,
        (unfiltered_of_clearFilters later list).trans same⟩

variable [RecordSource S] [Plugin H σ] [DecidableEq H] [DecidableEq K] [Condition K]

/-- Take any list in a session that callers can reach, and what changes of filters and of the filter
mask, with recomputes on the way, make of both.

* A recompute changes view bits only, and makes of them what the filters and the filter mask of now
  say. One of a single stream covers the entries of that stream, one of all streams every entry.
  Markers stay as they are. Clearing all filters sets the view bits of every entry.
* The recompute makes of the entries that it covers, markers apart, what it would make of them in the
  list as it was at first. Clearing all filters does so for markers too. -/
theorem recompute_forgets (reachable : Reachable session)
    (retuned : Retuned session array later list) :
    (∀ {handle refiltered after}, later.refilter handle list = .ok (refiltered, after) →
      List.Forall₂ (later.Recomputed (· = handle)) list refiltered ∧
      ∃ direct, later.refilter handle array = .ok (direct, after) ∧
        List.Forall₂ (fun new direct => ¬ new.isLost → new.stream = handle → new = direct)
          refiltered direct) ∧
    (∀ {refiltered after}, later.refilterAll list = .ok (refiltered, after) →
      List.Forall₂ (later.Recomputed fun _ => True) list refiltered ∧
      ∃ direct, later.refilterAll array = .ok (direct, after) ∧
        List.Forall₂ (fun new direct => ¬ new.isLost → new = direct) refiltered direct) ∧
    List.Forall₂ (fun old new => new = { old with visible := old.visible ||| 0x7F } ∧
      bitOf new.visible 7 = bitOf old.visible 7) list (later.clearFilters list).1 ∧
    later.clearFilters list = later.clearFilters array := by
  obtain ⟨sound, same⟩ := retuned.only_views reachable.sound
  refine ⟨fun done => ?_, fun done => ?_, cleared_clearFilters later list,
    clearFilters_forgets same⟩
  · exact ⟨recomputed_of_refilter sound done, refilter_forgets same done⟩
  · exact ⟨recomputed_of_refilterAll sound done, refilterAll_forgets same done⟩

def mixedEntries : List Entry :=
  [⟨⟨0, 0⟩, 0, 5, 1, 10, 0, View.all⟩, ⟨⟨0, 0⟩, 0, 5, Entry.lostId, 15, 3, View.all⟩,
   ⟨⟨1, 0⟩, 0, 9, 1, 20, 0, View.all⟩]

def narrowedSession : Session Script JournalPlugin ExtraCondition :=
  pairedSession.modifyStream ⟨0, 0⟩ fun stream =>
    { stream with filters := stream.filters.add ⟨.task, .hidden, 5⟩ }

def dimmedEntries : List Entry :=
  [⟨⟨0, 0⟩, 0, 5, 1, 10, 0, 0xF8⟩, ⟨⟨0, 0⟩, 0, 5, Entry.lostId, 15, 3, View.all⟩,
   ⟨⟨1, 0⟩, 0, 9, 1, 20, 0, View.all⟩]

theorem retuned_narrowedSession :
    Retuned pairedSession mixedEntries narrowedSession dimmedEntries := by
  have filtered : pairedSession.addFilter ⟨0, 0⟩ ⟨.task, .hidden, 5⟩ = .ok narrowedSession := rfl
  have done : narrowedSession.refilter ⟨0, 0⟩ mixedEntries = .ok (dimmedEntries, narrowedSession) :=
    rfl
  exact .refiltered (.filtered .loaded filtered) done

theorem recompute_forgets_dimmedEntries :
    Retuned pairedSession mixedEntries narrowedSession dimmedEntries ∧
      ∃ later refiltered after,
        narrowedSession.setFilterMask View.text = .ok later ∧
        later.refilterAll dimmedEntries = .ok (refiltered, after) ∧
        refiltered.map (·.visible) = [0xFD, View.all, View.all] ∧
        List.Forall₂ (later.Recomputed fun _ => True) dimmedEntries refiltered ∧
        ∃ direct, later.refilterAll mixedEntries = .ok (direct, after) ∧
          List.Forall₂ (fun new direct => ¬ new.isLost → new = direct) refiltered direct := by
  obtain ⟨later, masked⟩ : ∃ later, narrowedSession.setFilterMask View.text = .ok later := ⟨_, rfl⟩
  have allowed : ∀ entry ∈ dimmedEntries,
      later.idFilters entry.stream = .ok (later.filtersAt entry.stream) := by
    cases masked
    rw [dimmedEntries, List.forall_mem_cons, List.forall_mem_cons, List.forall_mem_singleton]
    exact ⟨rfl, rfl, rfl⟩
  have done := refilterAll_of_ok allowed
  have forgets := recompute_forgets reachable_pairedSession (.masked retuned_narrowedSession masked)
  refine ⟨retuned_narrowedSession, later, _, _, masked, done, ?_, forgets.2.1 done⟩
  cases masked
  rfl

/-- A recompute of the second stream leaves the mask that an earlier one gave an entry of the first. -/
theorem recompute_remembers_other_streams :
    Reachable pairedSession ∧
      Retuned pairedSession mixedEntries narrowedSession dimmedEntries ∧
      narrowedSession.refilter ⟨1, 0⟩ dimmedEntries = .ok (dimmedEntries, narrowedSession) ∧
      narrowedSession.refilter ⟨1, 0⟩ mixedEntries = .ok (mixedEntries, narrowedSession) ∧
      ¬ List.Forall₂ (fun new direct => ¬ new.isLost → new.visible = direct.visible)
        dimmedEntries mixedEntries := by
  refine ⟨reachable_pairedSession, retuned_narrowedSession, rfl, rfl, ?_⟩
  rw [dimmedEntries, mixedEntries, List.forall₂_cons]
  exact fun same => absurd (same.1 (by decide)) (by decide)

end Session

end KernelTrace
