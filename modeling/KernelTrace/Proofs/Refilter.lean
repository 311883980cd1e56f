import KernelTrace.Proofs.Steps
import KernelTrace.Proofs.Visibility
import KernelTrace.Session.Refilter

namespace KernelTrace

theorem Filters.reapply_eq (filters : Filters) (mask : UInt8) (entry : Entry) :
    ∃ visible, filters.reapply mask entry = { entry with visible } := by
  unfold Filters.reapply
  split
  · exact ⟨entry.visible, rfl⟩
  · exact ⟨_, rfl⟩

theorem Filters.reapply_keeps {α : Type} {part : Entry → α}
    (blind : ∀ (entry : Entry) (visible : UInt8), part { entry with visible } = part entry)
    (filters : Filters) (mask : UInt8) (entry : Entry) :
    part (filters.reapply mask entry) = part entry := by
  obtain ⟨visible, same⟩ := filters.reapply_eq mask entry
  rw [same, blind]

@[simp] theorem Filters.reapply_stream (filters : Filters) (mask : UInt8) (entry : Entry) :
    (filters.reapply mask entry).stream = entry.stream :=
  filters.reapply_keeps (fun _ _ => rfl) mask entry

@[simp] theorem Filters.reapply_ts (filters : Filters) (mask : UInt8) (entry : Entry) :
    (filters.reapply mask entry).ts = entry.ts :=
  filters.reapply_keeps (fun _ _ => rfl) mask entry

@[simp] theorem Filters.reapply_isLost (filters : Filters) (mask : UInt8) (entry : Entry) :
    (filters.reapply mask entry).isLost = entry.isLost :=
  filters.reapply_keeps (fun _ _ => rfl) mask entry

theorem bitOf_keepTouch {i : Nat} (bound : i < 8) (visible mask : UInt8) :
    bitOf (keepTouch visible mask) i = (bitOf mask i && (bitOf visible i || decide (i ≠ 7))) := by
  rw [keepTouch, bitOf_and, bitOf_or, bitOf_not bound, bitOf_untouched bound, decide_not]

theorem keepTouch_keepTouch {mask other : UInt8} (touch : bitOf mask 7 → bitOf other 7)
    (visible : UInt8) : keepTouch (keepTouch visible other) mask = keepTouch visible mask := by
  apply eq_of_bits
  intro i bound
  simp only [bitOf_keepTouch bound]
  by_cases last : i = 7
  · subst last
    cases kept : bitOf mask 7
    · rfl
    · simp [touch kept]
  · simp [last]

/-- The entry with every view bit set: what is left when no filter is. -/
def Entry.unfiltered (entry : Entry) : Entry :=
  { entry with visible := keepTouch entry.visible View.all }

theorem Entry.unfiltered_unfiltered (entry : Entry) :
    entry.unfiltered.unfiltered = entry.unfiltered := by
  unfold Entry.unfiltered
  congr 1
  exact keepTouch_keepTouch id entry.visible

theorem Entry.stream_of_unfiltered {entry other : Entry}
    (same : entry.unfiltered = other.unfiltered) : entry.stream = other.stream := by
  have streams := congrArg Entry.stream same
  exact streams

theorem Entry.isLost_of_unfiltered {entry other : Entry}
    (same : entry.unfiltered = other.unfiltered) : entry.isLost = other.isLost := by
  have lost := congrArg Entry.isLost same
  exact lost

theorem map_unfiltered_of_blind {change : Entry → Entry} {entries : List Entry}
    (blind : ∀ entry, (change entry).unfiltered = entry.unfiltered) :
    (entries.map change).map Entry.unfiltered = entries.map Entry.unfiltered := by
  rw [List.map_map]
  exact List.map_congr_left fun entry _ => blind entry

section

variable {array list : List Entry}

theorem map_stream_of_unfiltered
    (same : list.map Entry.unfiltered = array.map Entry.unfiltered) :
    list.map Entry.stream = array.map Entry.stream := by
  have blind : Entry.stream ∘ Entry.unfiltered = Entry.stream := rfl
  have streams := congrArg (List.map Entry.stream) same
  rwa [List.map_map, List.map_map, blind] at streams

theorem entrywise_of_unfiltered
    (same : list.map Entry.unfiltered = array.map Entry.unfiltered) :
    List.Forall₂ (fun entry now => now.unfiltered = entry.unfiltered) array list := by
  have equal : List.Forall₂ Eq (list.map Entry.unfiltered) (array.map Entry.unfiltered) := by
    rw [same, List.forall₂_eq_eq_eq]
  exact (List.forall₂_map_right_iff.mp (List.forall₂_map_left_iff.mp equal)).flip

end

theorem Filters.unfiltered_reapply (filters : Filters) {mask : UInt8}
    (clear : mask &&& View.untouched = 0) (entry : Entry) :
    (filters.reapply mask entry).unfiltered = entry.unfiltered := by
  unfold Filters.reapply
  split
  · rfl
  · unfold Entry.unfiltered
    congr 1
    apply eq_of_bits
    intro i bound
    simp only [bitOf_keepTouch bound, bitOf_all bound, Bool.true_and]
    by_cases last : i = 7
    · subst last
      rw [visibility, restrict_keeps_touch clear, bitOf_all bound]
      simp
    · simp [last]

theorem Filters.reapply_unfiltered (filters : Filters) (mask : UInt8) {entry : Entry}
    (whole : entry.isLost → entry.visible = View.all) :
    filters.reapply mask entry.unfiltered = filters.reapply mask entry := by
  have lost : entry.unfiltered.isLost = entry.isLost := rfl
  unfold Filters.reapply
  rw [lost]
  split
  · rename_i marker
    have same : keepTouch entry.visible View.all = entry.visible := by
      rw [whole marker]
      rfl
    rw [Entry.unfiltered, same]
  · have same : filters.visibility entry.unfiltered mask = filters.visibility entry mask := rfl
    rw [same]
    unfold Entry.unfiltered
    congr 1
    exact keepTouch_keepTouch (fun _ => bitOf_all (by decide)) entry.visible

theorem mem_streamsOf {handle : Handle} {entries : List Entry} :
    handle ∈ streamsOf entries ↔ ∃ entry ∈ entries, entry.stream = handle := by
  rw [streamsOf, List.mem_mergeSort, List.mem_eraseDups, List.mem_map]

namespace Session

variable {S H K : Type} {session after : Session S H K} {handle : Handle}
  {entries refiltered : List Entry}

theorem idFilters_eq_ok {filters : Filters} :
    session.idFilters handle = .ok filters ↔
      ∃ stream, session.stream handle = .ok stream ∧ stream.filters.hasContent = false ∧
        stream.filters = filters := by
  unfold idFilters
  cases session.stream handle with
  | error fault => simp
  | ok stream =>
      cases content : stream.filters.hasContent <;> simp [content]

def filtersAt (session : Session S H K) (handle : Handle) : Filters :=
  match session.idFilters handle with
  | .ok filters => filters
  | .error _ => {}

theorem filtersAt_of_ok {filters : Filters} (allowed : session.idFilters handle = .ok filters) :
    session.filtersAt handle = filters := by
  rw [filtersAt, allowed]

theorem refilter_eq_ok (done : session.refilter handle entries = .ok (refiltered, after)) :
    session.idFilters handle = .ok (session.filtersAt handle) ∧
      refiltered = (entries.map fun entry =>
        if entry.stream = handle then
          (session.filtersAt handle).reapply session.settings.filterMask entry
        else entry) ∧
      after = { session with collections := session.collections.resetStream handle } := by
  obtain ⟨filters, allowed, made⟩ := map_eq_ok.mp done
  rw [filtersAt_of_ok allowed]
  cases made
  exact ⟨allowed, rfl, rfl⟩

theorem mapM_reapply_eq_ok {mask : UInt8}
    (mapped : (entries.mapM fun entry => (session.idFilters entry.stream).map fun filters =>
      filters.reapply mask entry) = .ok refiltered) :
    (∀ entry ∈ entries, session.idFilters entry.stream = .ok (session.filtersAt entry.stream)) ∧
      refiltered = entries.map fun entry =>
        (session.filtersAt entry.stream).reapply mask entry := by
  have paired := mapM_eq_ok.mp mapped
  clear mapped
  induction paired with
  | nil => exact ⟨List.forall_mem_nil _, rfl⟩
  | cons first _ ih =>
      obtain ⟨filters, allowed, same⟩ := map_eq_ok.mp first
      have used := filtersAt_of_ok allowed
      rw [List.forall_mem_cons, List.map_cons, used, same, ← ih.2]
      exact ⟨⟨allowed, ih.1⟩, rfl⟩

theorem refilterAll_eq_ok (done : session.refilterAll entries = .ok (refiltered, after)) :
    (∀ entry ∈ entries, session.idFilters entry.stream = .ok (session.filtersAt entry.stream)) ∧
      refiltered = (entries.map fun entry =>
        (session.filtersAt entry.stream).reapply session.settings.filterMask entry) ∧
      after = { session with
        collections := session.collections.resetStreams (streamsOf entries) } := by
  obtain ⟨_, _, rest⟩ := bind_eq_ok.mp done
  obtain ⟨results, mapped, made⟩ := bind_eq_ok.mp rest
  cases made
  obtain ⟨allowed, same⟩ := mapM_reapply_eq_ok mapped
  exact ⟨allowed, same, rfl⟩

section

variable (clear : session.settings.filterMask &&& View.untouched = 0)

include clear

theorem unfiltered_of_refilter (done : session.refilter handle entries = .ok (refiltered, after)) :
    refiltered.map Entry.unfiltered = entries.map Entry.unfiltered := by
  obtain ⟨_, rfl, _⟩ := refilter_eq_ok done
  apply map_unfiltered_of_blind
  intro entry
  split
  · exact Filters.unfiltered_reapply _ clear entry
  · rfl

theorem unfiltered_of_refilterAll (done : session.refilterAll entries = .ok (refiltered, after)) :
    refiltered.map Entry.unfiltered = entries.map Entry.unfiltered := by
  obtain ⟨_, rfl, _⟩ := refilterAll_eq_ok done
  exact map_unfiltered_of_blind fun entry => Filters.unfiltered_reapply _ clear entry

end

theorem unfiltered_of_clearFilters (session : Session S H K) (entries : List Entry) :
    (session.clearFilters entries).1.map Entry.unfiltered = entries.map Entry.unfiltered :=
  map_unfiltered_of_blind Entry.unfiltered_unfiltered

theorem refilter_of_ok (allowed : session.idFilters handle = .ok (session.filtersAt handle)) :
    session.refilter handle entries =
      .ok (entries.map fun entry =>
          if entry.stream = handle then
            (session.filtersAt handle).reapply session.settings.filterMask entry
          else entry,
        { session with collections := session.collections.resetStream handle }) := by
  rw [refilter, allowed]
  rfl

theorem checked_eq_ok :
    (streamsOf entries).forM (fun handle => (session.idFilters handle).map fun _ => ()) = .ok () ↔
      ∀ entry ∈ entries,
        session.idFilters entry.stream = .ok (session.filtersAt entry.stream) := by
  rw [forM_eq_ok]
  constructor
  · intro checked entry present
    have member : entry.stream ∈ streamsOf entries := mem_streamsOf.mpr ⟨entry, present, rfl⟩
    obtain ⟨filters, found, _⟩ := map_eq_ok.mp (checked _ member)
    rw [found, filtersAt_of_ok found]
  · intro allowed handle member
    obtain ⟨entry, present, rfl⟩ := mem_streamsOf.mp member
    rw [allowed entry present]
    rfl

theorem refilterAll_of_ok
    (allowed : ∀ entry ∈ entries,
      session.idFilters entry.stream = .ok (session.filtersAt entry.stream)) :
    session.refilterAll entries =
      .ok (entries.map fun entry =>
          (session.filtersAt entry.stream).reapply session.settings.filterMask entry,
        { session with collections := session.collections.resetStreams (streamsOf entries) }) := by
  refine bind_eq_ok.mpr ⟨_, checked_eq_ok.mpr allowed, bind_eq_ok.mpr ⟨_, mapM_eq_ok.mpr ?_, rfl⟩⟩
  rw [List.forall₂_map_right_iff, List.forall₂_same]
  intro entry present
  rw [allowed entry present]
  rfl

/-- The entries, the session and whether the recompute that wrote to them went through. -/
abbrev InPlace (S H K : Type) := Except Fault Unit × List Entry × Session S H K

def refilterInPlace (session : Session S H K) (handle : Handle) (entries : List Entry) :
    InPlace S H K :=
  match session.idFilters handle with
  | .error fault => (.error fault, entries, session)
  | .ok filters =>
    (.ok (), entries.map fun entry =>
        if entry.stream = handle then filters.reapply session.settings.filterMask entry else entry,
      { session with collections := session.collections.resetStream handle })

/-- Writes to the entries one by one, each by the filters of its stream, and stops where it has no
open stream. -/
def refilterEach (session : Session S H K) : List Entry → Except Fault Unit × List Entry
  | [] => (.ok (), [])
  | entry :: entries =>
    match session.stream entry.stream with
    | .error fault => (.error fault, entry :: entries)
    | .ok stream =>
      let (outcome, rest) := session.refilterEach entries
      (outcome, stream.filters.reapply session.settings.filterMask entry :: rest)

def refilterAllInPlace (session : Session S H K) (entries : List Entry) : InPlace S H K :=
  match (streamsOf entries).forM fun handle => (session.idFilters handle).map fun _ => () with
  | .error fault => (.error fault, entries, session)
  | .ok () =>
    match session.refilterEach entries with
    | (.error fault, written) => (.error fault, written, session)
    | (.ok (), written) =>
      (.ok (), written,
        { session with collections := session.collections.resetStreams (streamsOf entries) })

/-- What a recompute in place leaves, told by the recompute that makes a new list. -/
def writeBack (entries : List Entry) (session : Session S H K) :
    Except Fault (List Entry × Session S H K) → InPlace S H K
  | .error fault => (.error fault, entries, session)
  | .ok (refiltered, after) => (.ok (), refiltered, after)

theorem refilterInPlace_eq (session : Session S H K) (handle : Handle) (entries : List Entry) :
    session.refilterInPlace handle entries =
      writeBack entries session (session.refilter handle entries) := by
  rw [refilterInPlace, refilter]
  cases session.idFilters handle <;> rfl

theorem refilterEach_of_ok
    (allowed : ∀ entry ∈ entries,
      session.idFilters entry.stream = .ok (session.filtersAt entry.stream)) :
    session.refilterEach entries =
      (.ok (), entries.map fun entry =>
        (session.filtersAt entry.stream).reapply session.settings.filterMask entry) := by
  induction entries with
  | nil => rfl
  | cons entry entries ih =>
      obtain ⟨first, others⟩ := List.forall_mem_cons.mp allowed
      obtain ⟨stream, found, _, same⟩ := idFilters_eq_ok.mp first
      rw [refilterEach, found]
      simp only [ih others, same, List.map_cons]

theorem refilterAllInPlace_eq (session : Session S H K) (entries : List Entry) :
    session.refilterAllInPlace entries = writeBack entries session (session.refilterAll entries) := by
  rw [refilterAllInPlace]
  cases checked : (streamsOf entries).forM fun handle =>
      (session.idFilters handle).map fun _ => () with
  | error fault =>
      rw [refilterAll, checked]
      rfl
  | ok _ =>
      -- the streams that were checked are those of the entries, so no entry stops the writing
      have allowed := checked_eq_ok.mp checked
      rw [refilterEach_of_ok allowed, refilterAll_of_ok allowed]
      rfl

end Session

end KernelTrace
