import KernelTrace.Query.Collection
import KernelTrace.Query.Scan
import KernelTrace.Proofs.Collections
import Mathlib.Data.Finset.Max

namespace KernelTrace

variable {K : Type}

def least? (positions : Finset Nat) : Option Nat :=
  if present : positions.Nonempty then some (positions.min' present) else none

def greatest? (positions : Finset Nat) : Option Nat :=
  if present : positions.Nonempty then some (positions.max' present) else none

section

variable {positions : Finset Nat} {position : Nat} {found : Option Nat}

theorem least?_eq_some_iff :
    least? positions = some position ↔ IsLeast (positions : Set Nat) position := by
  unfold least?
  split
  · rename_i present
    rw [Option.some.injEq]
    constructor
    · intro same
      rw [← same]
      exact positions.isLeast_min' present
    · exact (positions.isLeast_min' present).unique
  · rename_i absent
    simp only [reduceCtorEq, false_iff]
    exact fun least => absent ⟨position, least.1⟩

theorem greatest?_eq_some_iff :
    greatest? positions = some position ↔ IsGreatest (positions : Set Nat) position := by
  unfold greatest?
  split
  · rename_i present
    rw [Option.some.injEq]
    constructor
    · intro same
      rw [← same]
      exact positions.isGreatest_max' present
    · exact (positions.isGreatest_max' present).unique
  · rename_i absent
    simp only [reduceCtorEq, false_iff]
    exact fun greatest => absent ⟨position, greatest.1⟩

theorem eq_least?_of_iff
    (told : ∀ position, found = some position ↔ IsLeast (positions : Set Nat) position) :
    found = least? positions := by
  apply Option.ext
  intro position
  rw [told, least?_eq_some_iff]

theorem eq_greatest?_of_iff
    (told : ∀ position, found = some position ↔ IsGreatest (positions : Set Nat) position) :
    found = greatest? positions := by
  apply Option.ext
  intro position
  rw [told, greatest?_eq_some_iff]

theorem greatest?_eq_none_iff : greatest? positions = none ↔ positions = ∅ := by
  rw [← Finset.not_nonempty_iff_eq_empty]
  unfold greatest?
  split <;> simp_all

end

section

variable {α : Type} {items : List α} {item : α} {test : α → Bool}

theorem first_of_find? {precedes : α → α → Prop} (ordered : items.Pairwise precedes)
    (found : items.find? test = some item) :
    item ∈ items ∧ test item = true ∧
      ∀ other ∈ items, test other = true → other = item ∨ precedes item other := by
  obtain ⟨passes, before, after, rfl, fail⟩ := List.find?_eq_some_iff_append.mp found
  refine ⟨by simp, passes, ?_⟩
  intro other member holds
  rcases List.mem_append.mp member with early | late
  · have fails := fail other early
    rw [holds] at fails
    cases fails
  · rcases List.mem_cons.mp late with same | later
    · exact .inl same
    · have rest := (List.pairwise_append.mp ordered).2.1
      exact .inr ((List.pairwise_cons.mp rest).1 other later)

end

section

variable {items : List (Entry × Nat)} {test : Entry × Nat → Bool} {positions : Finset Nat}
  (told : ∀ position, position ∈ positions ↔
    ∃ entry, (entry, position) ∈ items ∧ test (entry, position) = true)

include told

theorem absent_of_find? (missing : items.find? test = none) : positions = ∅ := by
  apply Finset.eq_empty_of_forall_notMem
  intro position member
  obtain ⟨entry, present, passes⟩ := (told position).mp member
  exact List.find?_eq_none.mp missing _ present passes

theorem find?_eq_least? (ascending : items.Pairwise fun a b => a.2 < b.2) :
    (items.find? test).map Prod.snd = least? positions := by
  cases found : items.find? test with
  | none =>
      rw [absent_of_find? told found]
      rfl
  | some item =>
      obtain ⟨member, passes, first⟩ := first_of_find? ascending found
      refine (least?_eq_some_iff.mpr ⟨(told item.2).mpr ⟨item.1, member, passes⟩, ?_⟩).symm
      intro position other
      obtain ⟨entry, present, holds⟩ := (told position).mp other
      rcases first _ present holds with rfl | below
      · exact Nat.le_refl _
      · exact Nat.le_of_lt below

theorem find?_eq_greatest? (descending : items.Pairwise fun a b => b.2 < a.2) :
    (items.find? test).map Prod.snd = greatest? positions := by
  cases found : items.find? test with
  | none =>
      rw [absent_of_find? told found]
      rfl
  | some item =>
      obtain ⟨member, passes, first⟩ := first_of_find? descending found
      refine (greatest?_eq_some_iff.mpr ⟨(told item.2).mpr ⟨item.1, member, passes⟩, ?_⟩).symm
      intro position other
      obtain ⟨entry, present, holds⟩ := (told position).mp other
      rcases first _ present holds with rfl | above
      · exact Nat.le_refl _
      · exact Nat.le_of_lt above

end

namespace Window

variable {window : Window} {entries : List Entry} {entry : Entry} {position : Nat}

theorem mem_ahead :
    (entry, position) ∈ window.ahead entries.zipIdx ↔
      entries[position]? = some entry ∧ window.first ≤ position ∧
        position < window.first + window.count := by
  rw [ahead, List.mem_iff_getElem?]
  constructor
  · intro ⟨index, found⟩
    rw [List.getElem?_take] at found
    split at found
    · rename_i inside
      rw [List.getElem?_drop, List.getElem?_zipIdx] at found
      simp only [Option.map_eq_some_iff, Prod.mk.injEq] at found
      obtain ⟨_, present, rfl, rfl⟩ := found
      refine ⟨?_, by omega, by omega⟩
      rw [Nat.zero_add]
      exact present
    · cases found
  · intro ⟨present, notBefore, bound⟩
    refine ⟨position - window.first, ?_⟩
    rw [List.getElem?_take, if_pos (by omega), List.getElem?_drop, List.getElem?_zipIdx,
      Nat.add_sub_cancel' notBefore, present]
    simp

theorem mem_behind :
    (entry, position) ∈ window.behind entries.zipIdx ↔
      window.first < entries.length ∧ entries[position]? = some entry ∧
        position ≤ window.first ∧ window.first < position + window.count := by
  unfold behind
  rw [List.length_zipIdx]
  split
  · rename_i past
    simp only [List.not_mem_nil, false_iff]
    omega
  · rename_i inside
    rw [List.mem_reverse, List.mem_iff_getElem?]
    constructor
    · intro ⟨index, found⟩
      rw [List.getElem?_drop, List.getElem?_take] at found
      split at found
      · rename_i early
        rw [List.getElem?_zipIdx] at found
        simp only [Option.map_eq_some_iff, Prod.mk.injEq] at found
        obtain ⟨_, present, rfl, rfl⟩ := found
        refine ⟨by omega, ?_, by omega, by omega⟩
        rw [Nat.zero_add]
        exact present
      · cases found
    · intro ⟨_, present, notAfter, reached⟩
      refine ⟨position - (window.first + 1 - window.count), ?_⟩
      rw [List.getElem?_drop, Nat.add_sub_cancel' (by omega), List.getElem?_take,
        if_pos (by omega), List.getElem?_zipIdx, present]
      simp

theorem ahead_ascending : (window.ahead entries.zipIdx).Pairwise fun a b => a.2 < b.2 :=
  (zipIdx_ascending entries).sublist ((List.take_sublist _ _).trans (List.drop_sublist _ _))

theorem behind_descending : (window.behind entries.zipIdx).Pairwise fun a b => b.2 < a.2 := by
  unfold behind
  split
  · exact .nil
  · rw [List.pairwise_reverse]
    exact (zipIdx_ascending entries).sublist
      ((List.drop_sublist _ _).trans (List.take_sublist _ _))

end Window

namespace Scan

variable [Condition K] {scan : Scan K} {entries : List Entry} {outcome : ScanOutcome}

def takes (scan : Scan K) (entry : Entry) : Bool :=
  scan.accepts entry && (!scan.visibleOnly || entry.isVisible scan.mask)

theorem search_index? (blank : outcome.index? = none) (items : List (Entry × Nat)) :
    (scan.search outcome items).index? = (items.find? (scan.takes ·.1)).map Prod.snd := by
  induction items generalizing outcome with
  | nil => exact blank
  | cons item items ih =>
      obtain ⟨entry, index⟩ := item
      rw [search, List.find?_cons]
      cases accepted : scan.accepts entry with
      | false =>
          have passed : scan.takes entry = false := by simp [takes, accepted]
          simp only [passed, Bool.false_eq_true, if_false]
          exact ih blank
      | true =>
          cases hidden : scan.visibleOnly && !entry.isVisible scan.mask with
          | true =>
              have passed : scan.takes entry = false := by
                simp only [Bool.and_eq_true, Bool.not_eq_true'] at hidden
                simp [takes, hidden]
              simp only [passed, if_true]
              exact ih rfl
          | false =>
              have taken : scan.takes entry = true := by
                rw [takes, accepted, Bool.true_and, ← Bool.not_eq_false']
                simpa using hidden
              simp only [taken, if_true, Bool.false_eq_true, if_false]
              rfl

theorem firstFrom_eq_least? {positions : Finset Nat}
    (told : ∀ position, position ∈ positions ↔ scan.window.first ≤ position ∧
      position < scan.window.first + scan.window.count ∧
      ∃ entry, entries[position]? = some entry ∧ scan.takes entry = true) :
    (scan.firstFrom entries).index? = least? positions := by
  rw [firstFrom, search_index? rfl]
  apply find?_eq_least? _ Window.ahead_ascending
  intro position
  simp only [told, Window.mem_ahead]
  tauto

theorem lastUpTo_eq_greatest? {positions : Finset Nat} (inside : scan.window.first < entries.length)
    (told : ∀ position, position ∈ positions ↔ position ≤ scan.window.first ∧
      scan.window.first < position + scan.window.count ∧
      ∃ entry, entries[position]? = some entry ∧ scan.takes entry = true) :
    (scan.lastUpTo entries).index? = greatest? positions := by
  rw [lastUpTo, search_index? rfl]
  apply find?_eq_greatest? _ Window.behind_descending
  intro position
  simp only [told, Window.mem_behind]
  tauto

theorem lastUpTo_past (past : entries.length ≤ scan.window.first) :
    scan.lastUpTo entries = .empty := by
  rw [lastUpTo, Window.behind, List.length_zipIdx, if_pos past]
  rfl

end Scan

end KernelTrace
