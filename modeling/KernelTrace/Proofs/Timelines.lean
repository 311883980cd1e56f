import KernelTrace.Proofs.Commands
import KernelTrace.Proofs.Selections
import KernelTrace.Proofs.Shifts

namespace KernelTrace

theorem map_mapIdx {α β γ : Type} (change : β → γ) (make : Nat → α → β) (items : List α) :
    (items.mapIdx make).map change = items.mapIdx fun index item => change (make index item) := by
  apply List.ext_getElem?
  intro index
  simp [Function.comp_def]

theorem mem_rawRecords_of_lane {document : Document} {record : Record} {cpu : Nat}
    (member : record ∈ document.lane cpu) : record ∈ document.rawRecords :=
  List.mem_of_mem_filter ((document.lane_perm cpu).mem_iff.mp member)

/-- A time that 64 bits hold. -/
def IsTime (time : Int) : Prop :=
  Int64.minValue.toInt ≤ time ∧ time ≤ Int64.maxValue.toInt

instance (time : Int) : Decidable (IsTime time) := inferInstanceAs (Decidable (_ ∧ _))

theorem isTime_toInt (ts : Int64) : IsTime ts.toInt :=
  ⟨Int64.le_iff_toInt_le.mp (Int64.minValue_le ts), Int64.le_iff_toInt_le.mp (Int64.le_maxValue ts)⟩

theorem IsTime.toInt_ofInt {time : Int} (fits : IsTime time) : (Int64.ofInt time).toInt = time := by
  have least := Int64.toInt_minValue
  have most := Int64.toInt_maxValue
  rw [IsTime] at fits
  exact Int64.toInt_ofInt_of_le (by omega) (by omega)

theorem IsTime.max_ofInt {a b : Int} (first : IsTime a) (second : IsTime b) :
    max (Int64.ofInt a) (Int64.ofInt b) = Int64.ofInt (max a b) := by
  change (if Int64.ofInt a ≤ Int64.ofInt b then Int64.ofInt b else Int64.ofInt a) = _
  simp only [Int64.le_iff_toInt_le, first.toInt_ofInt, second.toInt_ofInt]
  split
  · exact congrArg Int64.ofInt (by omega)
  · exact congrArg Int64.ofInt (by omega)

/-- When the events before this record were lost: ten nanoseconds before it, but not before the
earliest time. -/
def Record.lossTime (record : Record) : Int := max (record.ts.toInt - 10) Int64.minValue.toInt

/-- The times that the record puts on the timeline. -/
def Record.times (record : Record) : List Int :=
  if record.missed = 0 then [record.ts.toInt] else [record.lossTime, record.ts.toInt]

theorem Record.times_eq (record : Record) : record.times = record.stamps.map Int64.toInt := by
  rw [times, stamps]
  split
  · rfl
  · rw [List.map_cons, List.map_singleton, toInt_backBy, lossTime]

theorem Record.ts_mem_times (record : Record) : record.ts.toInt ∈ record.times := by
  rw [times_eq]
  exact List.mem_map_of_mem record.ts_mem_stamps

theorem Record.lossTime_mem_times {record : Record} (lossy : record.missed ≠ 0) :
    record.lossTime ∈ record.times := by
  rw [times, if_neg lossy]
  exact List.mem_cons_self

/-- What a line of a dump may be about: a record, or the loss before it. -/
structure DumpItem where
  document : Document
  record : Record
  /-- Whether this is the loss before the record. -/
  marks : Bool
  entry : Entry

namespace Options

/-- How much later the times of the trace in this place are shown. -/
def shift (options : Options) (place : Nat) : Int := (options.offsets[place]?).elim 0 Int64.toInt

def recordEntry (options : Options) (mask : UInt8) (place : Nat) (record : Record) : Entry where
  stream := .nth place
  cpu := record.cpu.toInt32
  pid := record.pid
  eventId := record.eventId
  ts := .ofInt (record.ts.toInt + options.shift place)
  offset := record.offset
  visible := options.views mask record.eventId record.pid record.cpu.toInt32

/-- The entry that shows the loss before a record, never earlier than what comes before it on the
CPU. -/
def lossEntry (options : Options) (place : Nat) (previous : Option Int) (record : Record) :
    Entry where
  stream := .nth place
  cpu := record.cpu.toInt32
  pid := record.pid
  eventId := Entry.lostId
  ts := .ofInt (previous.elim (record.lossTime + options.shift place)
    (max (record.lossTime + options.shift place)))
  offset := record.missed
  visible := View.all

def laneItems (options : Options) (mask : UInt8) (place : Nat) (document : Document) :
    Option Int → List Record → List DumpItem
  | _, [] => []
  | previous, record :: records =>
    let item : DumpItem := ⟨document, record, false, options.recordEntry mask place record⟩
    let time := record.ts.toInt + options.shift place
    let rest := options.laneItems mask place document (some time) records
    if record.missed = 0 then item :: rest
    else ⟨document, record, true, options.lossEntry place previous record⟩ :: item :: rest

def Makes (options : Options) (mask : UInt8) (place : Nat) (item : DumpItem) : Prop :=
  item.marks = false ∧ item.entry = options.recordEntry mask place item.record ∨
    item.marks = true ∧ ∃ previous, item.entry = options.lossEntry place previous item.record

section

variable {options : Options} {mask : UInt8} {place : Nat} {document : Document}
  {previous : Option Int} {records : List Record} {item : DumpItem}

theorem mem_laneItems (member : item ∈ options.laneItems mask place document previous records) :
    item.document = document ∧ item.record ∈ records ∧ options.Makes mask place item := by
  induction records generalizing previous with
  | nil => cases member
  | cons record records ih =>
      let time := record.ts.toInt + options.shift place
      have later : item ∈ options.laneItems mask place document (some time) records →
          item.document = document ∧ item.record ∈ record :: records ∧
            options.Makes mask place item := by
        intro rest
        obtain ⟨same, inside, made⟩ := ih rest
        exact ⟨same, List.mem_cons_of_mem record inside, made⟩
      rw [laneItems] at member
      split at member
      · rcases List.mem_cons.mp member with rfl | rest
        · exact ⟨rfl, List.mem_cons_self, .inl ⟨rfl, rfl⟩⟩
        · exact later rest
      · rcases List.mem_cons.mp member with rfl | member
        · exact ⟨rfl, List.mem_cons_self, .inr ⟨rfl, previous, rfl⟩⟩
        · rcases List.mem_cons.mp member with rfl | rest
          · exact ⟨rfl, List.mem_cons_self, .inl ⟨rfl, rfl⟩⟩
          · exact later rest

/-- Each record has one item, and one more for the loss before it, if there was one. -/
theorem records_of_laneItems (options : Options) (mask : UInt8) (place : Nat) (document : Document)
    (previous : Option Int) (records : List Record) :
    let items := options.laneItems mask place document previous records
    (items.filter (!·.marks)).map (·.record) = records ∧
      (items.filter (·.marks)).map (·.record) = records.filter (·.missed ≠ 0) := by
  induction records generalizing previous with
  | nil => exact ⟨rfl, rfl⟩
  | cons record records ih =>
      obtain ⟨entries, losses⟩ := ih (some (record.ts.toInt + options.shift place))
      simp only [laneItems]
      split
      · rename_i whole
        simp [entries, losses, whole]
      · rename_i lossy
        simp [entries, losses, lossy]

end

variable {options : Options} {settings : Settings} {documents : List Document}
  {document : Document} {place : Nat} {record : Record} {records : List Record}

def items (options : Options) (settings : Settings) (documents : List Document) : List DumpItem :=
  (documents.mapIdx fun place document =>
    document.lanes.flatMap (options.laneItems settings.filterMask place document none)).flatten

/-- The items by time. Those of one time are left in their order. -/
def timeline (options : Options) (settings : Settings) (documents : List Document) :
    List DumpItem :=
  (options.items settings documents).mergeSort fun a b => a.entry.ts ≤ b.entry.ts

def wantsItem (options : Options) (mask : UInt8) (item : DumpItem) : Bool :=
  options.all || item.marks ||
    options.wants mask item.record.eventId item.record.pid item.record.cpu.toInt32

def shown (options : Options) (settings : Settings) (documents : List Document) : List DumpItem :=
  let wanted := (options.timeline settings documents).filter (options.wantsItem settings.filterMask)
  options.limit.elim wanted wanted.take

/-- The offsets make no time overflow. -/
def Fits (options : Options) (documents : List Document) : Prop :=
  ∀ (place : Nat) (document : Document) (shift : Int64), documents[place]? = some document →
    options.offsets[place]? = some shift →
      ∀ record ∈ document.rawRecords, ∀ time ∈ record.times, IsTime (time + shift.toInt)

theorem selects_item {mask : UInt8} {item : DumpItem}
    (made : options.Makes mask place item) :
    options.selects item.entry = options.wantsItem mask item := by
  rcases made with ⟨record, entry⟩ | ⟨marks, previous, entry⟩
  · rw [selects, wantsItem, record, entry, Bool.or_false, ← text_of_views]
    rfl
  · have visible : View.all &&& View.text ≠ 0 := by decide
    have text : item.entry.isVisible View.text = true := by
      rw [entry]
      exact decide_eq_true visible
    rw [selects, wantsItem, marks, text, Bool.or_true, Bool.true_or]

def loader (options : Options) (settings : Settings) (place : Nat) (shift : Option Int64) :
    Loader Empty where
  stream := .nth place
  filters := options.filters
  clock := shift.map Clock.offset
  mask := settings.filterMask

theorem loader_is_plain (place : Nat) (shift : Option Int64) :
    (options.loader settings place shift).IsPlain :=
  ⟨rfl, content_filters⟩

theorem time_eq (options : Options) (settings : Settings) (place : Nat) (ts : Int64) :
    (options.loader settings place options.offsets[place]?).time ts =
      .ofInt (ts.toInt + options.shift place) := by
  rw [Loader.time, loader, shift]
  cases options.offsets[place]? with
  | none => rw [Option.elim, Int.add_zero, Int64.ofInt_toInt]; rfl
  | some amount => rw [Option.elim, Int64.ofInt_add, Int64.ofInt_toInt, Int64.ofInt_toInt]; rfl

theorem plain_eq (options : Options) (settings : Settings) (place : Nat) (record : Record) :
    (options.loader settings place options.offsets[place]?).plain record =
      options.recordEntry settings.filterMask place record := by
  rw [Loader.plain, Loader.draft, time_eq, recordEntry]
  congr 1
  exact options.visibility_filters settings.filterMask _

theorem marker_eq {previous : Option Int}
    (fits : IsTime (record.lossTime + options.shift place))
    (before : ∀ time ∈ previous, IsTime time) :
    (options.loader settings place options.offsets[place]?).marker record
        (previous.map Int64.ofInt) = options.lossEntry place previous record := by
  rw [Loader.marker, time_eq, toInt_backBy, lossEntry, ← Record.lossTime]
  cases previous with
  | none => rfl
  | some time =>
      rw [Option.map_some, Option.elim, Option.elim, fits.max_ofInt (before time rfl)]
      rfl

theorem Fits.isTime (fits : options.Fits documents) (placed : documents[place]? = some document)
    (member : record ∈ document.rawRecords) {time : Int} (timed : time ∈ record.times) :
    IsTime (time + options.shift place) := by
  rw [shift]
  cases given : options.offsets[place]? with
  | none =>
      rw [Record.times_eq] at timed
      obtain ⟨ts, _, rfl⟩ := List.mem_map.mp timed
      rw [Option.elim, Int.add_zero]
      exact isTime_toInt ts
  | some amount => exact fits place document amount placed given record member time timed

theorem entries_of_laneItems {previous : Option Int} (before : ∀ time ∈ previous, IsTime time)
    (fits : ∀ record ∈ records, ∀ time ∈ record.times, IsTime (time + options.shift place)) :
    (options.laneItems settings.filterMask place document previous records).map (·.entry) =
      (options.loader settings place options.offsets[place]?).withMarkers
        (previous.map Int64.ofInt) (records.map fun record =>
          (record, (options.loader settings place options.offsets[place]?).plain record)) := by
  induction records generalizing previous with
  | nil => rfl
  | cons record records ih =>
      obtain ⟨first, others⟩ := List.forall_mem_cons.mp fits
      let time := record.ts.toInt + options.shift place
      have here : ∀ other ∈ some time, IsTime other := by
        rintro _ ⟨⟩
        exact first _ record.ts_mem_times
      have rest := ih here others
      rw [List.map_cons, Loader.withMarkers, laneItems, plain_eq]
      split
      · exact congrArg (options.recordEntry settings.filterMask place record :: ·) rest
      · rename_i lossy
        rw [marker_eq (first _ (Record.lossTime_mem_times lossy)) before]
        exact congrArg (options.lossEntry place previous record ::
          options.recordEntry settings.filterMask place record :: ·) rest

theorem time_le_time {shift : Option Int64} {a b : Int64} (below : a ≤ b)
    (first : ∀ amount, shift = some amount → Clock.Fits amount a)
    (second : ∀ amount, shift = some amount → Clock.Fits amount b) :
    (options.loader settings place shift).time a ≤
      (options.loader settings place shift).time b := by
  cases shift with
  | none => exact below
  | some amount => exact (first amount rfl).add_le_add (second amount rfl) below

theorem listing_ordered (fits : options.Fits documents) (placed : documents[place]? = some document)
    (cpu : Nat) :
    isOrdered ((options.loader settings place options.offsets[place]?).listing
      (document.lane cpu)) := by
  have stamped : ∀ record ∈ document.lane cpu, ∀ ts ∈ record.stamps, ∀ amount,
      options.offsets[place]? = some amount → Clock.Fits amount ts := by
    intro record member ts stamp amount given
    refine fits place document amount placed given record (mem_rawRecords_of_lane member) _ ?_
    rw [record.times_eq]
    exact List.mem_map_of_mem stamp
  apply (loader_is_plain place _).listing_ordered ()
  · intro record member lossy
    exact time_le_time (backBy_le record.ts) (stamped record member _ (Record.lead_mem_stamps lossy))
      (stamped record member _ record.ts_mem_stamps)
  · refine (document.lane_ordered cpu).imp_of_mem fun first second below => ?_
    exact time_le_time below (stamped _ first _ (Record.ts_mem_stamps _))
      (stamped _ second _ (Record.ts_mem_stamps _))

def listings (options : Options) (settings : Settings) (documents : List Document) :
    List (List (List Entry)) :=
  documents.mapIdx fun place document =>
    document.lanes.map (options.loader settings place options.offsets[place]?).listing

theorem mem_listings {group : List (List Entry)} {listing : List Entry}
    (member : group ∈ options.listings settings documents) (within : listing ∈ group) :
    ∃ place document cpu, documents[place]? = some document ∧
      (options.loader settings place options.offsets[place]?).listing (document.lane cpu) =
        listing := by
  obtain ⟨place, bound, rfl⟩ := List.mem_mapIdx.mp member
  obtain ⟨records, listed, same⟩ := List.mem_map.mp within
  obtain ⟨cpu, _, rfl⟩ := List.mem_map.mp listed
  exact ⟨place, documents[place], cpu, List.getElem?_eq_getElem bound, same⟩

theorem entries_of_items (settings : Settings) (fits : options.Fits documents) :
    (options.items settings documents).map (·.entry) =
      (options.listings settings documents).flatten.flatten := by
  rw [items, listings, List.map_flatten, List.flatten_flatten, map_mapIdx, map_mapIdx]
  congr 1
  apply List.ext_getElem?
  intro place
  rw [List.getElem?_mapIdx, List.getElem?_mapIdx]
  cases placed : documents[place]? with
  | none => rfl
  | some document =>
      refine congrArg some ?_
      dsimp only
      rw [List.map_flatMap, List.flatMap]
      refine congrArg List.flatten (List.map_congr_left fun lane listed => ?_)
      obtain ⟨cpu, _, rfl⟩ := List.mem_map.mp listed
      exact entries_of_laneItems (fun _ none => nomatch none) fun record member _ =>
        fits.isTime placed (mem_rawRecords_of_lane member)

theorem merged_eq_timeline (options : Options) (settings : Settings)
    (fits : options.Fits documents) :
    mergeLanes ((options.listings settings documents).map mergeLanes) =
      (options.timeline settings documents).map (·.entry) := by
  have ordered : ∀ listing ∈ (options.listings settings documents).flatten, isOrdered listing := by
    intro listing member
    obtain ⟨group, inside, within⟩ := List.mem_flatten.mp member
    obtain ⟨place, document, cpu, placed, rfl⟩ := mem_listings inside within
    exact listing_ordered fits placed cpu
  rw [mergeLanes_flatten, mergeLanes_eq_mergeSort ordered, ← entries_of_items settings fits, timeline,
    List.map_mergeSort]
  exact fun _ _ _ _ => rfl

theorem mem_timeline {item : DumpItem} (member : item ∈ options.timeline settings documents) :
    ∃ place document, documents[place]? = some document ∧ item.document = document ∧
      item.record ∈ document.rawRecords ∧ options.Makes settings.filterMask place item := by
  rw [timeline, List.mem_mergeSort, items] at member
  obtain ⟨group, inside, within⟩ := List.mem_flatten.mp member
  obtain ⟨place, bound, rfl⟩ := List.mem_mapIdx.mp inside
  obtain ⟨records, listed, here⟩ := List.mem_flatMap.mp within
  obtain ⟨cpu, _, rfl⟩ := List.mem_map.mp listed
  obtain ⟨same, present, made⟩ := mem_laneItems here
  exact ⟨place, documents[place], List.getElem?_eq_getElem bound, same,
    mem_rawRecords_of_lane present, made⟩

theorem records_of_items {part : DumpItem → Bool} {kept : Record → Bool}
    (each : ∀ (mask : UInt8) (place : Nat) (document : Document) (records : List Record),
      ((options.laneItems mask place document none records).filter part).map (·.record) =
        records.filter kept) :
    ((options.items settings documents).filter part).map (·.record) =
      documents.flatMap fun document => document.lanes.flatten.filter kept := by
  have own : ∀ (place : Nat) (document : Document),
      ((document.lanes.flatMap (options.laneItems settings.filterMask place document none)).filter
        part).map (·.record) = document.lanes.flatten.filter kept := by
    intro place document
    rw [List.filter_flatMap, List.map_flatMap, List.filter_flatten, List.flatMap]
    simp only [each]
  rw [items, List.filter_flatten, map_mapIdx, List.map_flatten, map_mapIdx, List.flatMap]
  simp only [own]
  congr 1
  apply List.ext_getElem?
  simp

theorem records_of_timeline (options : Options) (settings : Settings)
    (complete : ∀ document ∈ documents, document.HasCpus) {part : DumpItem → Bool}
    {kept : Record → Bool}
    (each : ∀ (mask : UInt8) (place : Nat) (document : Document) (records : List Record),
      ((options.laneItems mask place document none records).filter part).map (·.record) =
        records.filter kept) :
    (((options.timeline settings documents).filter part).map (·.record)).Perm
      ((documents.flatMap Document.rawRecords).filter kept) := by
  have sorted : (options.timeline settings documents).Perm (options.items settings documents) :=
    List.mergeSort_perm _ _
  have parted := (sorted.filter part).map (·.record)
  rw [records_of_items each] at parted
  refine parted.trans ?_
  rw [List.filter_flatMap]
  apply List.Perm.flatten_congr
  rw [List.forall₂_map_left_iff, List.forall₂_map_right_iff, List.forall₂_same]
  exact fun document member => (complete document member).lanes_perm.filter kept

theorem select_timeline :
    options.select ((options.timeline settings documents).map (·.entry)) =
      (options.shown settings documents).map (·.entry) := by
  have wanted : ((options.timeline settings documents).map (·.entry)).filter options.selects =
      ((options.timeline settings documents).filter
        (options.wantsItem settings.filterMask)).map (·.entry) := by
    rw [List.filter_map]
    congr 1
    apply List.filter_congr
    intro item member
    obtain ⟨_, _, _, _, _, made⟩ := mem_timeline member
    exact selects_item made
  rw [select, shown, wanted]
  cases options.limit with
  | none => rfl
  | some count => exact List.map_take.symm

theorem mem_timeline_of_shown {item : DumpItem} (member : item ∈ options.shown settings documents) :
    item ∈ options.timeline settings documents := by
  rw [shown] at member
  cases limit : options.limit with
  | none =>
      rw [limit] at member
      exact List.mem_of_mem_filter member
  | some count =>
      rw [limit] at member
      exact List.mem_of_mem_filter (List.mem_of_mem_take member)

end Options

end KernelTrace
