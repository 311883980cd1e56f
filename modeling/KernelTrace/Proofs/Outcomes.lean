import KernelTrace.Proofs.Scans
import KernelTrace.Query.Selector

/-! What a scan reports of its window: the foremost entry that it takes, that it takes none of the
entries that match, or that none matches. A scan that reads the entries place by place, and checks
each place, reports the same. -/

namespace KernelTrace

variable {K : Type}

namespace Window

variable {window : Window} {length place : Nat} {entries : List Entry} {entry : Entry}

def placesAhead (window : Window) (length : Nat) : Finset Nat :=
  (Finset.range length).filter fun place =>
    window.first ≤ place ∧ place < window.first + window.count

def placesBehind (window : Window) (length : Nat) : Finset Nat :=
  if window.first < length ∧ 0 < window.count then
    (Finset.range length).filter fun place =>
      window.first + 1 ≤ place + window.count ∧ place ≤ window.first
  else ∅

theorem mem_placesAhead :
    place ∈ window.placesAhead length ↔
      place < length ∧ window.first ≤ place ∧ place < window.first + window.count := by
  rw [placesAhead, Finset.mem_filter, Finset.mem_range]

theorem mem_placesBehind :
    place ∈ window.placesBehind length ↔
      window.first < length ∧ place ≤ window.first ∧ window.first < place + window.count := by
  unfold placesBehind
  split
  · rw [Finset.mem_filter, Finset.mem_range]
    omega
  · rw [eq_false (Finset.notMem_empty place), false_iff]
    omega

theorem mem_ahead_iff_place :
    (entry, place) ∈ window.ahead entries.zipIdx ↔
      place ∈ window.placesAhead entries.length ∧ entries[place]? = some entry := by
  rw [mem_ahead, mem_placesAhead]
  constructor
  · intro ⟨present, inside⟩
    exact ⟨⟨(List.getElem?_eq_some_iff.mp present).1, inside⟩, present⟩
  · intro ⟨⟨_, inside⟩, present⟩
    exact ⟨present, inside⟩

theorem mem_behind_iff_place :
    (entry, place) ∈ window.behind entries.zipIdx ↔
      place ∈ window.placesBehind entries.length ∧ entries[place]? = some entry := by
  rw [mem_behind, mem_placesBehind]
  tauto

theorem places_of_ahead :
    (window.ahead entries.zipIdx).map Prod.snd =
      List.range' window.first (min (window.first + window.count) entries.length - window.first) := by
  rw [ahead, List.map_take, List.map_drop, List.zipIdx_map_snd]
  apply List.ext_getElem
  · simp only [List.length_take, List.length_drop, List.length_range']
    omega
  · intro index _ _
    simp only [List.getElem_take, List.getElem_drop, List.getElem_range']
    omega

theorem places_of_behind (inside : window.first < entries.length) :
    (window.behind entries.zipIdx).map Prod.snd =
      (List.range' (window.first + 1 - window.count)
        (window.first + 1 - (window.first + 1 - window.count))).reverse := by
  rw [behind, List.length_zipIdx, if_neg (Nat.not_le.mpr inside), List.map_reverse, List.map_drop,
    List.map_take, List.zipIdx_map_snd]
  congr 1
  apply List.ext_getElem
  · simp only [List.length_take, List.length_drop, List.length_range']
    omega
  · intro index _ _
    simp only [List.getElem_take, List.getElem_drop, List.getElem_range']
    omega

end Window

theorem ScanOutcome.index?_eq_some {outcome : ScanOutcome} {place : Nat} :
    outcome.index? = some place ↔ outcome = .found place := by
  cases outcome <;> simp [index?]

/-- Of two scans of one window, the second from its far end: both end alike, and where they find
entries, the second does not stop before the first. -/
inductive ScanOutcome.Brackets : ScanOutcome → ScanOutcome → Prop
  | found {first last : Nat} : first ≤ last → Brackets (.found first) (.found last)
  | filtered : Brackets .filtered .filtered
  | empty : Brackets .empty .empty

namespace Scan

variable [Condition K] {scan : Scan K} {entries : List Entry} {outcome front back : ScanOutcome}
  {places : Finset Nat} {place : Nat} {items : List (Entry × Nat)}

def matching (scan : Scan K) (entries : List Entry) (places : Finset Nat) : Finset Nat :=
  places.filter fun place => (entries[place]?).any scan.accepts

def taken (scan : Scan K) (entries : List Entry) (places : Finset Nat) : Finset Nat :=
  places.filter fun place => (entries[place]?).any scan.takes

/-- The outcome tells which of these places is the foremost where the scan takes an entry, or that
it takes none of those that match, or that none matches. -/
structure Reports (scan : Scan K) (entries : List Entry) (places : Finset Nat)
    (IsForemost : Set Nat → Nat → Prop) (outcome : ScanOutcome) : Prop where
  found : ∀ place, outcome = .found place ↔ IsForemost (scan.taken entries places) place
  filtered : outcome = .filtered ↔
    scan.taken entries places = ∅ ∧ (scan.matching entries places).Nonempty
  empty : outcome = .empty ↔ scan.matching entries places = ∅

theorem mem_matching :
    place ∈ scan.matching entries places ↔
      place ∈ places ∧ ∃ entry, entries[place]? = some entry ∧ scan.accepts entry = true := by
  rw [matching, Finset.mem_filter, Option.any_eq_true]

theorem mem_taken :
    place ∈ scan.taken entries places ↔
      place ∈ places ∧ ∃ entry, entries[place]? = some entry ∧ scan.takes entry = true := by
  rw [taken, Finset.mem_filter, Option.any_eq_true]

theorem accepts_of_takes {entry : Entry} (takes : scan.takes entry = true) :
    scan.accepts entry = true := by
  rw [Scan.takes, Bool.and_eq_true] at takes
  exact takes.1

theorem taken_subset_matching : scan.taken entries places ⊆ scan.matching entries places := by
  intro place member
  obtain ⟨inside, entry, present, takes⟩ := mem_taken.mp member
  exact mem_matching.mpr ⟨inside, entry, present, accepts_of_takes takes⟩

theorem search_cons_of_not_takes {entry : Entry} (passed : scan.takes entry = false) :
    scan.search outcome ((entry, place) :: items) =
      scan.search (if scan.accepts entry then .filtered else outcome) items := by
  rw [search]
  cases accepted : scan.accepts entry with
  | false => rfl
  | true =>
      rw [takes, accepted, Bool.true_and, ← Bool.not_eq_true', Bool.not_or, Bool.not_not] at passed
      simp only [passed, if_true]

theorem search_of_untaken (untaken : ∀ item ∈ items, scan.takes item.1 = false) :
    scan.search outcome items =
      if items.any (scan.accepts ·.1) then .filtered else outcome := by
  induction items generalizing outcome with
  | nil => rfl
  | cons item items ih =>
      obtain ⟨passed, rest⟩ := List.forall_mem_cons.mp untaken
      rw [search_cons_of_not_takes passed, ih rest, List.any_cons]
      cases scan.accepts item.1 with
      | false => rfl
      | true => exact ite_self ScanOutcome.filtered

theorem exists_found_of_taken (taken : ∃ item ∈ items, scan.takes item.1 = true) :
    ∃ place, scan.search .empty items = .found place := by
  obtain ⟨found, first⟩ := Option.isSome_iff_exists.mp (List.find?_isSome.mpr taken)
  refine ⟨found.2, ScanOutcome.index?_eq_some.mp ?_⟩
  rw [search_index? rfl, first]
  rfl

theorem search_eq_filtered_iff :
    scan.search .empty items = .filtered ↔
      (¬ ∃ item ∈ items, scan.takes item.1 = true) ∧ ∃ item ∈ items, scan.accepts item.1 = true := by
  by_cases taken : ∃ item ∈ items, scan.takes item.1 = true
  · obtain ⟨place, found⟩ := exists_found_of_taken taken
    simp [found, taken]
  · have untaken : ∀ item ∈ items, scan.takes item.1 = false := by simpa using taken
    rw [search_of_untaken untaken, ← List.any_eq_true]
    simp [taken]

theorem search_eq_empty_iff :
    scan.search .empty items = .empty ↔ ¬ ∃ item ∈ items, scan.accepts item.1 = true := by
  by_cases taken : ∃ item ∈ items, scan.takes item.1 = true
  · obtain ⟨place, found⟩ := exists_found_of_taken taken
    obtain ⟨item, member, takes⟩ := taken
    rw [found]
    exact iff_of_false nofun fun none => none ⟨item, member, accepts_of_takes takes⟩
  · have untaken : ∀ item ∈ items, scan.takes item.1 = false := by simpa using taken
    rw [search_of_untaken untaken, ← List.any_eq_true]
    simp

section

variable (told : ∀ entry place, (entry, place) ∈ items ↔
  place ∈ places ∧ entries[place]? = some entry)

include told

theorem mem_matching_iff_item :
    place ∈ scan.matching entries places ↔
      ∃ entry, (entry, place) ∈ items ∧ scan.accepts entry = true := by
  simp only [mem_matching, told, and_assoc, exists_and_left]

theorem mem_taken_iff_item :
    place ∈ scan.taken entries places ↔
      ∃ entry, (entry, place) ∈ items ∧ scan.takes entry = true := by
  simp only [mem_taken, told, and_assoc, exists_and_left]

theorem search_reports {IsForemost : Set Nat → Nat → Prop}
    (foremost : ∀ place, (items.find? (scan.takes ·.1)).map Prod.snd = some place ↔
      IsForemost (scan.taken entries places) place) :
    scan.Reports entries places IsForemost (scan.search .empty items) := by
  have taken_iff : (∃ item ∈ items, scan.takes item.1 = true) ↔
      (scan.taken entries places).Nonempty := by
    simp only [Finset.Nonempty, mem_taken_iff_item told, Prod.exists]
    exact exists_comm
  have matching_iff : (∃ item ∈ items, scan.accepts item.1 = true) ↔
      (scan.matching entries places).Nonempty := by
    simp only [Finset.Nonempty, mem_matching_iff_item told, Prod.exists]
    exact exists_comm
  refine ⟨fun place => ?_, ?_, ?_⟩
  · rw [← ScanOutcome.index?_eq_some, search_index? rfl, foremost]
  · rw [search_eq_filtered_iff, taken_iff, matching_iff, Finset.not_nonempty_iff_eq_empty]
  · rw [search_eq_empty_iff, matching_iff, Finset.not_nonempty_iff_eq_empty]

end

theorem firstFrom_reports (scan : Scan K) (entries : List Entry) :
    scan.Reports entries (scan.window.placesAhead entries.length) IsLeast
      (scan.firstFrom entries) := by
  have told : ∀ entry place, (entry, place) ∈ scan.window.ahead entries.zipIdx ↔
      place ∈ scan.window.placesAhead entries.length ∧ entries[place]? = some entry :=
    fun _ _ => Window.mem_ahead_iff_place
  apply search_reports told
  intro place
  rw [find?_eq_least? (fun _ => mem_taken_iff_item told) Window.ahead_ascending,
    least?_eq_some_iff]

theorem lastUpTo_reports (scan : Scan K) (entries : List Entry) :
    scan.Reports entries (scan.window.placesBehind entries.length) IsGreatest
      (scan.lastUpTo entries) := by
  have told : ∀ entry place, (entry, place) ∈ scan.window.behind entries.zipIdx ↔
      place ∈ scan.window.placesBehind entries.length ∧ entries[place]? = some entry :=
    fun _ _ => Window.mem_behind_iff_place
  apply search_reports told
  intro place
  rw [find?_eq_greatest? (fun _ => mem_taken_iff_item told) Window.behind_descending,
    greatest?_eq_some_iff]

theorem Reports.brackets (ahead : scan.Reports entries places IsLeast front)
    (behind : scan.Reports entries places IsGreatest back) : front.Brackets back := by
  cases front with
  | found first =>
      have least := (ahead.found first).mp rfl
      have taken : first ∈ scan.taken entries places := least.1
      cases back with
      | found last =>
          have greatest := (behind.found last).mp rfl
          exact .found (least.2 greatest.1)
      | filtered =>
          rw [(behind.filtered.mp rfl).1] at taken
          exact absurd taken (Finset.notMem_empty first)
      | empty =>
          have matching := taken_subset_matching taken
          rw [behind.empty.mp rfl] at matching
          exact absurd matching (Finset.notMem_empty first)
  | filtered =>
      have hidden := ahead.filtered.mp rfl
      rw [behind.filtered.mpr hidden]
      exact .filtered
  | empty =>
      have none := ahead.empty.mp rfl
      rw [behind.empty.mpr none]
      exact .empty

/-- Reads the entries of these places one by one. Nothing comes of it if a place lies outside. -/
def readPlaces (scan : Scan K) (entries : Array Entry) (outcome : ScanOutcome) :
    List Nat → Option ScanOutcome
  | [] => some outcome
  | place :: places => do
    let entry ← entries[place]?
    if scan.accepts entry then
      if scan.visibleOnly && !entry.isVisible scan.mask then scan.readPlaces entries .filtered places
      else some (.found place)
    else scan.readPlaces entries outcome places

/-- The end of the window stops at the highest position and at the end of the entries. -/
def readAhead (scan : Scan K) (entries : Array Entry) : Option ScanOutcome :=
  let stop := min (min (scan.window.first + scan.window.count) maxPosition) entries.size
  scan.readPlaces entries .empty (List.range' scan.window.first (stop - scan.window.first))

/-- Nothing comes of it if the place after the first would pass the highest position. -/
def readBehind (scan : Scan K) (entries : Array Entry) : Option ScanOutcome :=
  if scan.window.count = 0 ∨ entries.size ≤ scan.window.first then some .empty
  else if maxPosition < scan.window.first + 1 then none
  else
    let start := scan.window.first + 1 - scan.window.count
    scan.readPlaces entries .empty
      (List.range' start (scan.window.first + 1 - start)).reverse

theorem readPlaces_eq_search (present : ∀ item ∈ items, entries[item.2]? = some item.1) :
    scan.readPlaces entries.toArray outcome (items.map Prod.snd) =
      some (scan.search outcome items) := by
  induction items generalizing outcome with
  | nil => rfl
  | cons item items ih =>
      obtain ⟨entry, place⟩ := item
      obtain ⟨here, rest⟩ := List.forall_mem_cons.mp present
      have read : entries.toArray[place]? = some entry := by rwa [List.getElem?_toArray]
      simp only [List.map_cons, readPlaces, read, Option.bind_eq_bind, Option.bind_some, search,
        ih rest]
      split
      · split <;> rfl
      · rfl

theorem readAhead_eq (sized : entries.length ≤ maxPosition) :
    scan.readAhead entries.toArray = some (scan.firstFrom entries) := by
  have present : ∀ item ∈ scan.window.ahead entries.zipIdx, entries[item.2]? = some item.1 :=
    fun item member => (Window.mem_ahead_iff_place.mp member).2
  have stop : min (min (scan.window.first + scan.window.count) maxPosition) entries.length =
      min (scan.window.first + scan.window.count) entries.length := by omega
  rw [readAhead, List.size_toArray, stop, ← Window.places_of_ahead, readPlaces_eq_search present]
  rfl

theorem readBehind_eq (sized : entries.length ≤ maxPosition) :
    scan.readBehind entries.toArray = some (scan.lastUpTo entries) := by
  have present : ∀ item ∈ scan.window.behind entries.zipIdx, entries[item.2]? = some item.1 :=
    fun item member => (Window.mem_behind_iff_place.mp member).2
  rw [readBehind, List.size_toArray]
  split
  · rename_i nowhere
    have nothing : scan.window.behind entries.zipIdx = [] := by
      apply List.eq_nil_iff_forall_not_mem.mpr
      intro item member
      have inside := (Window.mem_behind_iff_place.mp member).1
      rw [Window.mem_placesBehind] at inside
      omega
    rw [lastUpTo, nothing]
    rfl
  · rename_i somewhere
    have inside : scan.window.first < entries.length := by omega
    rw [if_neg (by omega)]
    dsimp only
    rw [← Window.places_of_behind inside, readPlaces_eq_search present]
    rfl

/-- Every scan tells its window apart, wherever that lies and however wide it is.

* Read place by place it comes to its outcome, as no place lies outside of the entries. There may be
  as many entries as there are positions.
* The outcome is the least place of the window, or towards earlier entries the greatest, where the
  scan takes an entry. If there is none, it says whether any entry of the window matches.
* From either end of one window the same comes of it, but for the place. -/
theorem scans_tell_windows_apart (scan : Scan K) (entries : List Entry) :
    (entries.length ≤ maxPosition →
      scan.readAhead entries.toArray = some (scan.firstFrom entries) ∧
      scan.readBehind entries.toArray = some (scan.lastUpTo entries)) ∧
      scan.Reports entries (scan.window.placesAhead entries.length) IsLeast
        (scan.firstFrom entries) ∧
      scan.Reports entries (scan.window.placesBehind entries.length) IsGreatest
        (scan.lastUpTo entries) ∧
      ∀ other : Window,
        other.placesBehind entries.length = scan.window.placesAhead entries.length →
          (scan.firstFrom entries).Brackets
            (({ scan with window := other } : Scan K).lastUpTo entries) := by
  refine ⟨fun sized => ⟨readAhead_eq sized, readBehind_eq sized⟩, scan.firstFrom_reports entries,
    scan.lastUpTo_reports entries, fun other same => ?_⟩
  have ahead := scan.firstFrom_reports entries
  have behind := ({ scan with window := other } : Scan K).lastUpTo_reports entries
  rw [← same] at ahead
  exact ahead.brackets ⟨behind.found, behind.filtered, behind.empty⟩

/-- Four entries, of which a text view shows the second of one task and the third of another. -/
def veiledEntries : List Entry :=
  [⟨⟨0, 0⟩, 0, 7, 1, 10, 0, View.graph⟩, ⟨⟨0, 0⟩, 0, 7, 1, 20, 1, View.all⟩,
   ⟨⟨0, 0⟩, 0, 9, 1, 30, 2, View.all⟩, ⟨⟨0, 0⟩, 0, 7, 1, 40, 3, View.graph⟩]

def veiledScan (window : Window) : Scan ExtraCondition :=
  ⟨window, Selector.pid, ⟨0, 0⟩, [7], true, View.text⟩

theorem scans_tell_veiledEntries_apart :
    veiledEntries.length ≤ maxPosition ∧
      (veiledScan ⟨0, maxPosition⟩).readAhead veiledEntries.toArray = some (.found 1) ∧
      (veiledScan ⟨3, 4⟩).readBehind veiledEntries.toArray = some (.found 1) ∧
      (veiledScan ⟨2, 2⟩).readAhead veiledEntries.toArray = some .filtered ∧
      ((veiledScan ⟨0, maxPosition⟩).firstFrom veiledEntries).Brackets
        ((veiledScan ⟨3, 4⟩).lastUpTo veiledEntries) := by
  have sized : veiledEntries.length ≤ maxPosition := by decide
  obtain ⟨wide, _, _, brackets⟩ :=
    scans_tell_windows_apart (veiledScan ⟨0, maxPosition⟩) veiledEntries
  obtain ⟨back, _⟩ := scans_tell_windows_apart (veiledScan ⟨3, 4⟩) veiledEntries
  obtain ⟨narrow, reports, _⟩ := scans_tell_windows_apart (veiledScan ⟨2, 2⟩) veiledEntries
  have whole : (⟨3, 4⟩ : Window).placesBehind veiledEntries.length =
      (⟨0, maxPosition⟩ : Window).placesAhead veiledEntries.length := by decide
  have found : (veiledScan ⟨0, maxPosition⟩).firstFrom veiledEntries = .found 1 := by decide
  have last : (veiledScan ⟨3, 4⟩).lastUpTo veiledEntries = .found 1 := by decide
  refine ⟨sized, (wide sized).1.trans (congrArg some found),
    (back sized).2.trans (congrArg some last), ?_, brackets _ whole⟩
  refine (narrow sized).1.trans (congrArg some (reports.filtered.mpr ?_))
  decide

end Scan

end KernelTrace
