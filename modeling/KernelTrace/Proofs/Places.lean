import KernelTrace.Proofs.Runs
import KernelTrace.Timeline

/-! Looking up a time among entries. The first and the last entry tell whether the time lies before
or after all of them. If it does neither, bisection finds the first entry that is not earlier. -/

namespace KernelTrace

variable {entries : List Entry} {entry first last : Entry} {time : Int64} {index other : Nat}

theorem first_le_of_mem (ordered : isOrdered entries) (head : entries.head? = some first)
    (member : entry ∈ entries) : first.ts ≤ entry.ts := by
  obtain ⟨rest, rfl⟩ := List.head?_eq_some_iff.mp head
  rcases List.mem_cons.mp member with rfl | later
  · exact Int64.le_refl _
  · exact (isOrdered_cons.mp ordered).1 entry later

theorem le_last_of_mem (ordered : isOrdered entries) (tail : entries.getLast? = some last)
    (member : entry ∈ entries) : entry.ts ≤ last.ts := by
  obtain ⟨front, rfl⟩ := List.getLast?_eq_some_iff.mp tail
  rcases List.mem_append.mp member with earlier | lone
  · have apart := (List.pairwise_append.mp (isOrdered_iff.mp ordered)).2.2
    exact notLater_iff.mp (apart entry earlier last List.mem_cons_self)
  · rw [List.mem_singleton.mp lone]
    exact Int64.le_refl _

theorem all_after_iff (ordered : isOrdered entries) (head : entries.head? = some first) :
    (∀ entry ∈ entries, time < entry.ts) ↔ time < first.ts := by
  constructor
  · intro after
    exact after first (List.mem_of_head? head)
  · intro after entry member
    exact Int64.lt_of_lt_of_le after (first_le_of_mem ordered head member)

theorem all_before_iff (ordered : isOrdered entries) (tail : entries.getLast? = some last) :
    (∀ entry ∈ entries, entry.ts < time) ↔ last.ts < time := by
  constructor
  · intro before
    exact before last (List.mem_of_getLast? tail)
  · intro before entry member
    exact Int64.lt_of_le_of_lt (le_last_of_mem ordered tail member) before

/-- At the index stands the first entry that is not earlier than the time. -/
structure ReachesAt (entries : List Entry) (time : Int64) (index : Nat) : Prop where
  inside : index < entries.length
  reached : time ≤ entries[index].ts
  earlier : ∀ entry ∈ entries.take index, entry.ts < time

theorem ReachesAt.le (reaches : ReachesAt entries time index)
    (reachesToo : ReachesAt entries time other) : index ≤ other := by
  apply Nat.le_of_not_lt
  intro below
  have inside := reachesToo.inside
  have member : entries[other] ∈ entries.take index :=
    List.mem_take_iff_getElem.mpr ⟨other, by omega, rfl⟩
  exact Int64.not_lt.mpr reachesToo.reached (reaches.earlier _ member)

theorem ReachesAt.unique (reaches : ReachesAt entries time index)
    (reachesToo : ReachesAt entries time other) : index = other :=
  Nat.le_antisymm (reaches.le reachesToo) (reachesToo.le reaches)

theorem exists_ends (filled : entries ≠ []) :
    ∃ first last, entries.head? = some first ∧ entries.getLast? = some last :=
  ⟨entries.head filled, entries.getLast filled, List.head?_eq_some_head filled,
    List.getLast?_eq_some_getLast filled⟩

theorem placeOf_of_ends (head : entries.head? = some first) (tail : entries.getLast? = some last)
    (time : Int64) :
    placeOf entries time =
      if time < first.ts then .beforeAll
      else if last.ts < time then .afterAll
      else .entry (leadingCount entries.toArray fun entry => entry.ts < time) := by
  rw [placeOf, head, tail]

theorem ends_of_placeOf (found : placeOf entries time = .entry index) :
    ∃ last, entries.getLast? = some last ∧ ¬ last.ts < time ∧
      index = leadingCount entries.toArray fun entry => entry.ts < time := by
  have filled : entries ≠ [] := by
    rintro rfl
    cases found
  obtain ⟨first, last, head, tail⟩ := exists_ends filled
  rw [placeOf_of_ends head tail] at found
  split at found
  · cases found
  · split at found
    · cases found
    · rename_i notEarlier
      cases found
      exact ⟨last, tail, notEarlier, rfl⟩

/-- Even among unordered entries an index that is found has an entry. -/
theorem lt_of_placeOf (found : placeOf entries time = .entry index) : index < entries.length := by
  obtain ⟨last, tail, notEarlier, rfl⟩ := ends_of_placeOf found
  have ends : entries.toArray[entries.toArray.size - 1]? = some last := by
    rw [List.getElem?_toArray, List.size_toArray, ← List.getLast?_eq_getElem?, tail]
  exact leadingCount_lt ends (decide_eq_false notEarlier)

theorem placeOf_eq_beforeAll_iff (ordered : isOrdered entries) (time : Int64) :
    placeOf entries time = .beforeAll ↔ entries ≠ [] ∧ ∀ entry ∈ entries, time < entry.ts := by
  by_cases filled : entries = []
  · subst filled
    exact iff_of_false nofun fun after => after.1 rfl
  · obtain ⟨first, last, head, tail⟩ := exists_ends filled
    rw [placeOf_of_ends head tail, all_after_iff ordered head]
    split
    · rename_i after
      exact iff_of_true rfl ⟨filled, after⟩
    · rename_i notAfter
      refine iff_of_false ?_ fun after => notAfter after.2
      split <;> nofun

theorem placeOf_eq_afterAll_iff (ordered : isOrdered entries) (time : Int64) :
    placeOf entries time = .afterAll ↔ ∀ entry ∈ entries, entry.ts < time := by
  by_cases filled : entries = []
  · subst filled
    exact iff_of_true rfl nofun
  · obtain ⟨first, last, head, tail⟩ := exists_ends filled
    rw [placeOf_of_ends head tail, all_before_iff ordered tail]
    split
    · rename_i after
      -- the first entry is tested before the last one, which is not earlier than it
      have later := Int64.lt_of_lt_of_le after
        (first_le_of_mem ordered head (List.mem_of_getLast? tail))
      exact iff_of_false nofun (Int64.lt_asymm later)
    · split
      · rename_i before
        exact iff_of_true rfl before
      · rename_i notBefore
        exact iff_of_false nofun notBefore

theorem reachesAt_of_placeOf (ordered : isOrdered entries)
    (found : placeOf entries time = .entry index) : ReachesAt entries time index := by
  have inside := lt_of_placeOf found
  have here : entries.toArray[index]? = some entries[index] := by
    rw [List.getElem?_toArray, List.getElem?_eq_getElem inside]
  obtain ⟨_, _, _, rfl⟩ := ends_of_placeOf found
  have parts := parts_of_ordered ordered time
  have notEarlier := of_decide_eq_false (parts.behind _ _ here (Nat.le_refl _))
  exact ⟨inside, Int64.not_lt.mp notEarlier,
    fun entry member => of_decide_eq_true (parts.holds_of_mem_take member)⟩

/-- A look-up tells every time apart: all entries are later, or all are earlier, or else it finds the
first entry that is not earlier. That one is found whenever some entry is not later, ties and the
times at both ends included. -/
theorem placeOf_is_lower_bound (ordered : isOrdered entries) (time : Int64) :
    (placeOf entries time = .beforeAll ↔ entries ≠ [] ∧ ∀ entry ∈ entries, time < entry.ts) ∧
      (placeOf entries time = .afterAll ↔ ∀ entry ∈ entries, entry.ts < time) ∧
      (¬ (entries ≠ [] ∧ ∀ entry ∈ entries, time < entry.ts) →
        ¬ (∀ entry ∈ entries, entry.ts < time) →
          ∃ index, placeOf entries time = .entry index ∧ ReachesAt entries time index) ∧
      ∀ index, ReachesAt entries time index → (∃ entry ∈ entries, entry.ts ≤ time) →
        placeOf entries time = .entry index := by
  have beforeAll := placeOf_eq_beforeAll_iff ordered time
  have afterAll := placeOf_eq_afterAll_iff ordered time
  have found : ¬ (entries ≠ [] ∧ ∀ entry ∈ entries, time < entry.ts) →
      ¬ (∀ entry ∈ entries, entry.ts < time) →
        ∃ index, placeOf entries time = .entry index ∧ ReachesAt entries time index := by
    intro notBefore notAfter
    cases place : placeOf entries time with
    | entry index => exact ⟨index, rfl, reachesAt_of_placeOf ordered place⟩
    | beforeAll => exact absurd (beforeAll.mp place) notBefore
    | afterAll => exact absurd (afterAll.mp place) notAfter
  refine ⟨beforeAll, afterAll, found, ?_⟩
  intro index reaches ⟨entry, member, notLater⟩
  have notBefore : ¬ (entries ≠ [] ∧ ∀ entry ∈ entries, time < entry.ts) :=
    fun after => Int64.not_lt.mpr notLater (after.2 entry member)
  have notAfter : ¬ ∀ entry ∈ entries, entry.ts < time :=
    fun before => Int64.not_lt.mpr reaches.reached (before _ (List.getElem_mem reaches.inside))
  obtain ⟨place, here, reachesToo⟩ := found notBefore notAfter
  rw [here, reaches.unique reachesToo]

def steppedEntries : List Entry :=
  [entryAt 10 0 0, entryAt 20 0 1, entryAt 20 1 2, entryAt 30 0 3]

theorem placeOf_in_steppedEntries :
    isOrdered steppedEntries ∧
      placeOf steppedEntries 9 = .beforeAll ∧
      placeOf steppedEntries 10 = .entry 0 ∧
      placeOf steppedEntries 20 = .entry 1 ∧
      (∃ index, placeOf steppedEntries 21 = .entry index ∧ ReachesAt steppedEntries 21 index) ∧
      placeOf steppedEntries 30 = .entry 3 ∧
      placeOf steppedEntries 31 = .afterAll := by
  have ordered : isOrdered steppedEntries := by decide
  have found {time : Int64} {index : Nat} := (placeOf_is_lower_bound ordered time).2.2.2 index
  refine ⟨ordered, (placeOf_is_lower_bound ordered 9).1.mpr (by decide),
    found ⟨by decide, by decide, by decide⟩ (by decide),
    found ⟨by decide, by decide, by decide⟩ (by decide),
    (placeOf_is_lower_bound ordered 21).2.2.1 (by decide) (by decide),
    found ⟨by decide, by decide, by decide⟩ (by decide),
    (placeOf_is_lower_bound ordered 31).2.1.mpr (by decide)⟩

end KernelTrace
