import KernelTrace.Proofs.Bisection
import KernelTrace.Proofs.Collections
import KernelTrace.Proofs.Scans
import KernelTrace.Query.Selector

/-! What a lookup in a collection finds, and what a scan of the entries finds, both told by the
positions of the entries that a key accepts. The main theorem says where the two agree. -/

namespace KernelTrace

variable {K : Type}

namespace CollectionSpec

variable [Condition K] {key : CollectionSpec K} {entries : List Entry} {window : Window}
  {position : Nat}

def accepted (key : CollectionSpec K) (entries : List Entry) : Finset Nat :=
  (Finset.range entries.length).filter fun position => (entries[position]?).any key.accepts

theorem mem_accepted :
    position ∈ key.accepted entries ↔
      ∃ entry, entries[position]? = some entry ∧ key.accepts entry := by
  rw [accepted, Finset.mem_filter, Finset.mem_range]
  constructor
  · intro ⟨_, accepts⟩
    exact (Option.any_eq_true _ _).mp accepts
  · intro ⟨entry, present, accepts⟩
    refine ⟨(List.getElem?_eq_some_iff.mp present).1, ?_⟩
    exact (Option.any_eq_true _ _).mpr ⟨entry, present, accepts⟩

/-- Of the accepted positions those from the start of the window to the margin past its end. -/
def ahead (key : CollectionSpec K) (window : Window) (entries : List Entry) : Finset Nat :=
  (key.accepted entries).filter fun position =>
    window.first ≤ position ∧ position < window.first + window.count + key.margin

/-- Of the accepted positions those up to the first of the window from which it is reached. -/
def behind (key : CollectionSpec K) (window : Window) (entries : List Entry) : Finset Nat :=
  (key.accepted entries).filter fun position =>
    position ≤ window.first ∧ window.first < position + window.count + key.margin

theorem mem_ahead :
    position ∈ key.ahead window entries ↔ position ∈ key.accepted entries ∧
      window.first ≤ position ∧ position < window.first + window.count + key.margin :=
  Finset.mem_filter

theorem mem_behind :
    position ∈ key.behind window entries ↔ position ∈ key.accepted entries ∧
      position ≤ window.first ∧ window.first < position + window.count + key.margin :=
  Finset.mem_filter

theorem lt_of_mem_accepted (member : position ∈ key.accepted entries) :
    position < entries.length :=
  Finset.mem_range.mp (Finset.mem_filter.mp member).1

theorem mem_indexOf : position ∈ (key.indexOf entries).positions ↔ position ∈ key.accepted entries :=
  List.mem_toArray.trans (mem_positions.trans mem_accepted.symm)

end CollectionSpec

section

variable {positions : Array Nat} {i j a b : Nat}

theorem le_of_ascending (ascending : positions.toList.Pairwise (· < ·))
    (first : positions[i]? = some a) (second : positions[j]? = some b) (order : i ≤ j) : a ≤ b := by
  rw [← Array.getElem?_toList] at first second
  obtain ⟨_, rfl⟩ := List.getElem?_eq_some_iff.mp first
  obtain ⟨_, rfl⟩ := List.getElem?_eq_some_iff.mp second
  rcases Nat.lt_or_eq_of_le order with below | rfl
  · exact Nat.le_of_lt (List.pairwise_iff_getElem.mp ascending i j _ _ below)
  · exact Nat.le_refl _

theorem lt_leadingCount_iff (ascending : positions.toList.Pairwise (· < ·)) (test : Nat → Bool)
    (lower : ∀ a b, a ≤ b → test b = true → test a = true) (found : positions[i]? = some a) :
    i < leadingCount positions test ↔ test a = true := by
  have givesWay : GivesWay positions test := by
    intro i j a b first second order holds
    exact lower a b (le_of_ascending ascending first second order) holds
  exact (leadingCount_parts givesWay).lt_iff found

theorem leadingCount_le_iff (ascending : positions.toList.Pairwise (· < ·)) (bound : Nat)
    (found : positions[i]? = some a) :
    leadingCount positions (fun position => position < bound) ≤ i ↔ bound ≤ a := by
  have passes := lt_leadingCount_iff ascending (fun position => position < bound)
    (fun a b order below => by simp only [decide_eq_true_eq] at below ⊢; omega) found
  rw [decide_eq_true_eq] at passes
  omega

theorem lt_leadingCount_le_iff (ascending : positions.toList.Pairwise (· < ·)) (bound : Nat)
    (found : positions[i]? = some a) :
    i < leadingCount positions (fun position => position ≤ bound) ↔ a ≤ bound := by
  have passes := lt_leadingCount_iff ascending (fun position => position ≤ bound)
    (fun a b order below => by simp only [decide_eq_true_eq] at below ⊢; omega) found
  rwa [decide_eq_true_eq] at passes

end

namespace Collection

variable {collection : Collection K} {window : Window} {position : Nat}
  (ascending : collection.positions.toList.Pairwise (· < ·)) (wide : window.count ≠ 0)

include ascending wide

theorem firstFrom_eq_some_iff :
    collection.firstFrom window = some position ↔
      IsLeast {other | other ∈ collection.positions ∧ window.first ≤ other ∧
        other < min (window.first + window.count + collection.key.margin) maxPosition}
        position := by
  have behind : ∀ {index other : Nat}, collection.positions[index]? = some other →
      (leadingCount collection.positions (fun position => position < window.first) ≤ index ↔
        window.first ≤ other) :=
    leadingCount_le_iff ascending window.first
  unfold firstFrom
  rw [if_neg wide]
  simp only [Option.filter_eq_some_iff, decide_eq_true_eq]
  constructor
  · intro ⟨found, bound⟩
    refine ⟨⟨Array.mem_of_getElem? found, (behind found).mp (Nat.le_refl _), bound⟩, ?_⟩
    intro other ⟨member, notBefore, _⟩
    obtain ⟨index, there⟩ := Array.getElem?_of_mem member
    exact le_of_ascending ascending found there ((behind there).mpr notBefore)
  · intro ⟨⟨member, notBefore, bound⟩, least⟩
    obtain ⟨index, there⟩ := Array.getElem?_of_mem member
    have late := (behind there).mpr notBefore
    have inside := Nat.lt_of_le_of_lt late (Array.getElem?_eq_some_iff.mp there).1
    have here := Array.getElem?_eq_getElem inside
    have below := le_of_ascending ascending here there late
    have above := least ⟨Array.mem_of_getElem? here, (behind here).mp (Nat.le_refl _), by omega⟩
    rw [here, Nat.le_antisymm below above]
    exact ⟨rfl, bound⟩

theorem lastUpTo_eq_some_iff :
    collection.lastUpTo window = some position ↔
      IsGreatest {other | other ∈ collection.positions ∧ other ≤ window.first ∧
        min (window.first + 1) maxPosition - min (window.count + collection.key.margin) maxPosition
          ≤ other} position := by
  have before : ∀ {index other : Nat}, collection.positions[index]? = some other →
      (index < leadingCount collection.positions (fun position => position ≤ window.first) ↔
        other ≤ window.first) :=
    lt_leadingCount_le_iff ascending window.first
  unfold lastUpTo
  rw [if_neg wide]
  dsimp only
  split
  · rename_i none
    rw [none] at before
    simp only [reduceCtorEq, false_iff]
    intro ⟨⟨member, notAfter, _⟩, _⟩
    obtain ⟨index, there⟩ := Array.getElem?_of_mem member
    exact Nat.not_lt_zero _ ((before there).mpr notAfter)
  · rename_i some
    have last : leadingCount collection.positions (fun position => position ≤ window.first) - 1 <
        leadingCount collection.positions (fun position => position ≤ window.first) := by omega
    simp only [Option.filter_eq_some_iff, decide_eq_true_eq]
    constructor
    · intro ⟨found, bound⟩
      refine ⟨⟨Array.mem_of_getElem? found, (before found).mp last, bound⟩, ?_⟩
      intro other ⟨member, notAfter, _⟩
      obtain ⟨index, there⟩ := Array.getElem?_of_mem member
      have early := (before there).mpr notAfter
      exact le_of_ascending ascending there found (by omega)
    · intro ⟨⟨member, notAfter, bound⟩, greatest⟩
      obtain ⟨index, there⟩ := Array.getElem?_of_mem member
      have early := (before there).mpr notAfter
      have inside : leadingCount collection.positions
          (fun position => position ≤ window.first) - 1 < collection.positions.size :=
        Nat.lt_of_lt_of_le last (leadingCount_le _ _)
      have here := Array.getElem?_eq_getElem inside
      have above := le_of_ascending ascending there here (by omega)
      have below := greatest ⟨Array.mem_of_getElem? here, (before here).mp last, by omega⟩
      rw [here, Nat.le_antisymm below above]
      exact ⟨rfl, bound⟩

end Collection

namespace CollectionSpec

/-- The scan that asks the question of a lookup: the margin is part of its window. -/
def scan (key : CollectionSpec K) (window : Window) : Scan K where
  window := ⟨window.first, window.count + key.margin⟩
  selector := key.selector
  stream := key.stream
  args := key.args
  visibleOnly := true
  mask := key.mask

@[simp] theorem scan_window (key : CollectionSpec K) (window : Window) :
    (key.scan window).window = ⟨window.first, window.count + key.margin⟩ := rfl

variable [Condition K] {key : CollectionSpec K} {entries : List Entry} {window : Window}

@[simp] theorem build_key (key : CollectionSpec K) (entries : List Entry) :
    (Collection.build key entries).key = key := rfl

theorem build_ascending (key : CollectionSpec K) (entries : List Entry) :
    (Collection.build key entries).positions.toList.Pairwise (· < ·) :=
  key.positions_ascending entries

theorem mem_build {position : Nat} :
    position ∈ (Collection.build key entries).positions ↔ position ∈ key.accepted entries :=
  mem_indexOf

theorem firstFrom_build (sized : entries.length ≤ maxPosition) (wide : window.count ≠ 0) :
    (Collection.build key entries).firstFrom window = least? (key.ahead window entries) := by
  apply eq_least?_of_iff
  intro position
  rw [Collection.firstFrom_eq_some_iff (key.build_ascending entries) wide]
  congr! 1
  ext other
  simp only [Set.mem_ofPred_eq, Finset.mem_coe, mem_ahead, mem_build, build_key]
  constructor
  · intro ⟨member, notBefore, bound⟩
    exact ⟨member, notBefore, by omega⟩
  · intro ⟨member, notBefore, bound⟩
    have inside := lt_of_mem_accepted member
    exact ⟨member, notBefore, by omega⟩

theorem reached_iff {first count margin other last : Nat} (below : other < last) :
    other ≤ first ∧ min (first + 1) last - min (count + margin) last ≤ other ↔
      other ≤ min first (last - 1) ∧ min first (last - 1) < other + count + margin := by
  omega

theorem lastUpTo_build_clamped (sized : entries.length ≤ maxPosition) (wide : window.count ≠ 0) :
    (Collection.build key entries).lastUpTo window =
      greatest? (key.behind { window with first := min window.first (maxPosition - 1) }
        entries) := by
  apply eq_greatest?_of_iff
  intro position
  rw [Collection.lastUpTo_eq_some_iff (key.build_ascending entries) wide]
  congr! 1
  ext other
  rw [Set.mem_ofPred_eq, Finset.mem_coe, mem_behind, mem_build, build_key]
  apply and_congr_right
  intro member
  exact reached_iff (Nat.lt_of_lt_of_le (lt_of_mem_accepted member) sized)

theorem lastUpTo_build (sized : entries.length ≤ maxPosition)
    (inRange : window.first < maxPosition) (wide : window.count ≠ 0) :
    (Collection.build key entries).lastUpTo window = greatest? (key.behind window entries) := by
  have below : window.first ≤ maxPosition - 1 := by omega
  rw [lastUpTo_build_clamped sized wide, Nat.min_eq_left below]

theorem scan_takes (key : CollectionSpec K) (window : Window) (entry : Entry) :
    (key.scan window).takes entry = key.accepts entry := by
  simp [Scan.takes, Scan.accepts, accepts, scan]

theorem firstFrom_scan (key : CollectionSpec K) (window : Window) (entries : List Entry) :
    ((key.scan window).firstFrom entries).index? = least? (key.ahead window entries) := by
  apply Scan.firstFrom_eq_least?
  intro position
  simp only [mem_ahead, mem_accepted, scan_takes, scan_window, ← Nat.add_assoc]
  tauto

theorem lastUpTo_scan (key : CollectionSpec K) (inside : window.first < entries.length) :
    ((key.scan window).lastUpTo entries).index? = greatest? (key.behind window entries) := by
  apply Scan.lastUpTo_eq_greatest? inside
  intro position
  simp only [mem_behind, mem_accepted, scan_takes, scan_window, ← Nat.add_assoc]
  tauto

/-- Towards later entries a lookup finds what a scan finds. Towards earlier ones it does so from
any place within the entries; from past their end a scan finds nothing, so that the two agree only
where the lookup does not reach back to an accepted entry. -/
theorem lookups_are_scans (key : CollectionSpec K) (sized : entries.length ≤ maxPosition)
    (wide : 0 < window.count) :
    (Collection.build key entries).firstFrom window =
        ((key.scan window).firstFrom entries).index? ∧
      ((Collection.build key entries).lastUpTo window =
          ((key.scan window).lastUpTo entries).index? ↔
        window.first < entries.length ∨ ∀ position ∈ key.accepted entries,
          position + window.count + key.margin ≤ min window.first (maxPosition - 1)) := by
  have wide := Nat.pos_iff_ne_zero.mp wide
  constructor
  · calc (Collection.build key entries).firstFrom window
      _ = least? (key.ahead window entries) := firstFrom_build sized wide
      _ = ((key.scan window).firstFrom entries).index? := (key.firstFrom_scan window entries).symm
  rcases Nat.lt_or_ge window.first entries.length with inside | past
  · have inRange := Nat.lt_of_lt_of_le inside sized
    rw [lastUpTo_build sized inRange wide, key.lastUpTo_scan inside]
    exact iff_of_true rfl (.inl inside)
  · rw [(key.scan window).lastUpTo_past past, lastUpTo_build_clamped sized wide]
    change greatest? _ = none ↔ _
    rw [greatest?_eq_none_iff, Finset.eq_empty_iff_forall_notMem]
    constructor
    · intro unreached
      right
      intro position member
      have below := lt_of_mem_accepted member
      have missed := unreached position
      simp only [mem_behind, member, true_and] at missed
      omega
    · intro apart position member
      obtain ⟨accepted, _, reached⟩ := mem_behind.mp member
      rcases apart with inside | unreached
      · omega
      · have missed := unreached position accepted
        dsimp only at reached
        omega

def taskKey : CollectionSpec ExtraCondition := ⟨Selector.pid, ⟨0, 0⟩, [7], View.text, 1⟩

/-- Three entries of one task, of which a text view does not show the second. -/
def taskEntries : List Entry :=
  [⟨⟨0, 0⟩, 0, 7, 1, 10, 0, View.all⟩, ⟨⟨0, 0⟩, 0, 7, 1, 20, 1, View.graph⟩,
   ⟨⟨0, 0⟩, 0, 7, 2, 30, 2, View.all⟩]

theorem taskEntries_sized : taskEntries.length ≤ maxPosition := by decide

theorem lookups_are_scans_of_taskEntries :
    (Collection.build taskKey taskEntries).firstFrom ⟨1, 1⟩ =
        ((taskKey.scan ⟨1, 1⟩).firstFrom taskEntries).index? ∧
      (Collection.build taskKey taskEntries).lastUpTo ⟨1, 1⟩ =
        ((taskKey.scan ⟨1, 1⟩).lastUpTo taskEntries).index? ∧
      (Collection.build taskKey taskEntries).lastUpTo ⟨4, 1⟩ =
        ((taskKey.scan ⟨4, 1⟩).lastUpTo taskEntries).index? := by
  obtain ⟨ahead, behind⟩ := lookups_are_scans taskKey taskEntries_sized
    (show 0 < (⟨1, 1⟩ : Window).count by decide)
  obtain ⟨_, past⟩ := lookups_are_scans taskKey taskEntries_sized
    (show 0 < (⟨4, 1⟩ : Window).count by decide)
  exact ⟨ahead, behind.mpr (.inl (by decide)), past.mpr (.inr (by decide))⟩

/-- From the place just past the entries a lookup still finds the last one. -/
theorem lookup_differs_from_scan_past_the_end :
    ¬ ∀ (key : CollectionSpec ExtraCondition) (entries : List Entry) (window : Window),
      entries.length ≤ maxPosition → window.first ≤ maxPosition → 0 < window.count →
        window.count + key.margin ≤ maxPosition →
        (Collection.build key entries).firstFrom window =
            ((key.scan window).firstFrom entries).index? ∧
          (Collection.build key entries).lastUpTo window =
            ((key.scan window).lastUpTo entries).index? := by
  intro same
  have agrees := (same taskKey taskEntries ⟨3, 1⟩ taskEntries_sized (by decide) (by decide)
    (by decide)).2
  rw [lastUpTo_build taskEntries_sized (by decide) (by decide)] at agrees
  revert agrees
  decide

end CollectionSpec

end KernelTrace
