import KernelTrace.Proofs.Sorting
import KernelTrace.Proofs.Tapes
import Mathlib.Data.List.Basic
import Mathlib.Data.List.Perm.Basic

namespace KernelTrace

namespace Document

variable {document : Document} {cpu : Nat} {record : Record}

/-- Positions in the document fit into offsets. -/
def IsSized (document : Document) : Prop := document.records.length < UInt64.size

def HasCpus (document : Document) : Prop :=
  ∀ record ∈ document.records, record.cpu.toNat < document.cpuCount.toNat

/-- An array has room for a lane to each CPU, and every record has its lane. -/
def Opens (document : Document) : Prop :=
  document.cpuCount.toNat ≤ maxLanes ∧ document.HasCpus

theorem getElem?_rawRecords (index : Nat) :
    document.rawRecords[index]? = (document.records[index]?).map (·.at index) :=
  List.getElem?_mapIdx

theorem written_of_getElem? {index : Nat} (placed : document.rawRecords[index]? = some record) :
    ∃ written, document.records[index]? = some written ∧ written.at index = record :=
  Option.map_eq_some_iff.mp (getElem?_rawRecords index ▸ placed)

theorem length_rawRecords : document.rawRecords.length = document.records.length :=
  List.length_mapIdx

theorem IsSized.offset_eq (sized : document.IsSized) {index : Nat}
    (placed : document.rawRecords[index]? = some record) : record.offset.toNat = index := by
  have bound := (List.getElem?_eq_some_iff.mp placed).1
  rw [length_rawRecords] at bound
  obtain ⟨written, _, rfl⟩ := written_of_getElem? placed
  exact UInt64.toNat_ofNat_of_lt' (Nat.lt_trans bound sized)

theorem earlier_total (a b : Record) :
    (decide (a.ts ≤ b.ts) || decide (b.ts ≤ a.ts)) = true := by
  rw [Bool.or_eq_true, decide_eq_true_eq, decide_eq_true_eq]
  exact Int64.le_total a.ts b.ts

theorem earlier_trans (a b c : Record) (first : decide (a.ts ≤ b.ts) = true)
    (second : decide (b.ts ≤ c.ts) = true) : decide (a.ts ≤ c.ts) = true :=
  decide_eq_true (Int64.le_trans (of_decide_eq_true first) (of_decide_eq_true second))

theorem lane_perm (document : Document) (cpu : Nat) :
    (document.lane cpu).Perm (document.rawRecords.filter fun record => record.cpu.toNat = cpu) :=
  List.mergeSort_perm _ _

theorem lane_ordered (document : Document) (cpu : Nat) :
    (document.lane cpu).Pairwise fun a b => a.ts ≤ b.ts :=
  (List.pairwise_mergeSort earlier_trans earlier_total _).imp of_decide_eq_true

theorem lane_stable (document : Document) (cpu : Nat) (time : Int64) :
    (document.lane cpu).filter (·.ts = time) =
      (document.rawRecords.filter fun record => record.cpu.toNat = cpu).filter (·.ts = time) := by
  rw [lane]
  refine filter_mergeSort earlier_trans earlier_total (fun a b first second => ?_) _
  rw [of_decide_eq_true first, of_decide_eq_true second, decide_eq_true_eq]
  exact Int64.le_refl time

theorem lanes_perm_filter (document : Document) (count : Nat) :
    ((List.range count).flatMap document.lane).Perm
      (document.rawRecords.filter fun record => record.cpu.toNat < count) := by
  induction count with
  | zero => simp
  | succ count ih =>
      have split := List.filter_append_perm (fun record : Record => decide (record.cpu.toNat < count))
        (document.rawRecords.filter fun record => record.cpu.toNat < count + 1)
      have below : ∀ record : Record, (decide (record.cpu.toNat < count) &&
          decide (record.cpu.toNat < count + 1)) = decide (record.cpu.toNat < count) := by grind
      have last : ∀ record : Record, (!decide (record.cpu.toNat < count) &&
          decide (record.cpu.toNat < count + 1)) = decide (record.cpu.toNat = count) := by grind
      simp only [List.filter_filter, below, last] at split
      rw [List.range_succ, List.flatMap_append, List.flatMap_singleton]
      exact (ih.append (document.lane_perm count)).trans split

theorem HasCpus.of_mem (complete : document.HasCpus) (member : record ∈ document.rawRecords) :
    record.cpu.toNat < document.cpuCount.toNat := by
  obtain ⟨index, placed⟩ := List.getElem?_of_mem member
  obtain ⟨written, found, rfl⟩ := written_of_getElem? placed
  exact complete written (List.mem_of_getElem? found)

theorem HasCpus.lanes_perm (complete : document.HasCpus) :
    ((List.range document.cpuCount.toNat).flatMap document.lane).Perm document.rawRecords := by
  have all := document.lanes_perm_filter document.cpuCount.toNat
  rwa [List.filter_eq_self.mpr fun record member => decide_eq_true (complete.of_mem member)] at all

theorem stray?_eq_none : document.stray? = none ↔ document.HasCpus := by
  rw [stray?, List.find?_eq_none]
  constructor
  · intro none written member
    obtain ⟨index, found⟩ := List.getElem?_of_mem member
    have placed : document.rawRecords[index]? = some (written.at index) := by
      rw [getElem?_rawRecords, found]
      rfl
    exact Nat.lt_of_not_le fun stray =>
      none _ (List.mem_of_getElem? placed) (decide_eq_true stray)
  · intro complete record member
    simpa using complete.of_mem member

theorem stray?_of_first {index : Nat} {written : DocumentRecord}
    (placed : document.records[index]? = some written)
    (stray : document.cpuCount.toNat ≤ written.cpu.toNat)
    (first : ∀ earlier ∈ document.records.take index,
      earlier.cpu.toNat < document.cpuCount.toNat) :
    document.stray? = some (written.at index) := by
  obtain ⟨bound, found⟩ := List.getElem?_eq_some_iff.mp placed
  rw [stray?, List.find?_eq_some_iff_getElem]
  refine ⟨decide_eq_true stray, index, by rwa [length_rawRecords], ?_, ?_⟩
  · simp [rawRecords, found]
  · intro earlier below
    have within := first document.records[earlier]
      (List.mem_take_iff_getElem.mpr ⟨earlier, by omega, rfl⟩)
    simpa [rawRecords, DocumentRecord.at] using within

end Document

namespace Replay

variable {document : Document} {replay : Replay} {cpu : Nat}

theorem ofDocument_of_allotted (allotted : document.cpuCount.toNat ≤ maxLanes) :
    ofDocument document = .ok (match document.stray? with
      | some record => .error (.corrupt
          (.strayRecord record.offset.toNat record.cpu.toNat document.cpuCount.toNat))
      | none => .ok
          ⟨document, (Array.range document.cpuCount.toNat).map (Lane.ofList ∘ document.lane)⟩) := by
  rw [ofDocument, if_neg (Nat.not_lt.mpr allotted)]
  cases document.stray? <;> rfl

theorem ofDocument_of_unallotted (unallotted : maxLanes < document.cpuCount.toNat) :
    ofDocument document = .error ⟨"capacity overflow"⟩ := if_pos unallotted

theorem ofDocument_eq_ok_iff :
    (∃ replay, ofDocument document = .ok (.ok replay)) ↔ document.Opens := by
  by_cases allotted : document.cpuCount.toNat ≤ maxLanes
  · rw [ofDocument_of_allotted allotted, Document.Opens, ← Document.stray?_eq_none]
    cases document.stray? with
    | none => simp [allotted]
    | some record => simp
  · rw [ofDocument_of_unallotted (Nat.lt_of_not_le allotted)]
    simp [Document.Opens, allotted]

theorem ofDocument_of_stray (sized : document.IsSized)
    (allotted : document.cpuCount.toNat ≤ maxLanes) {index : Nat} {written : DocumentRecord}
    (placed : document.records[index]? = some written)
    (stray : document.cpuCount.toNat ≤ written.cpu.toNat)
    (first : ∀ earlier ∈ document.records.take index,
      earlier.cpu.toNat < document.cpuCount.toNat) :
    ofDocument document =
      .ok (.error (.corrupt (.strayRecord index written.cpu.toNat document.cpuCount.toNat))) := by
  have bound := (List.getElem?_eq_some_iff.mp placed).1
  have offset : (UInt64.ofNat index).toNat = index :=
    UInt64.toNat_ofNat_of_lt' (Nat.lt_trans bound sized)
  rw [ofDocument_of_allotted allotted, Document.stray?_of_first placed stray first]
  simp only [DocumentRecord.at, offset]

inductive Read
  | first (cpu : Nat)
  | next (cpu : Nat)
  | record (offset : UInt64)
  deriving DecidableEq

def answer (replay : Replay) : Read → Except SourceFault (Option Record) × Replay
  | .first cpu => RecordSource.restart replay cpu
  | .next cpu => RecordSource.next replay cpu
  | .record offset => (RecordSource.recordAt replay offset).map (·.map some) id

def after (replay : Replay) (reads : List Read) : Replay :=
  reads.foldl (fun replay read => (replay.answer read).2) replay

def answers (replay : Replay) : List Read → List (Except SourceFault (Option Record))
  | [] => []
  | read :: reads => (replay.answer read).1 :: (replay.answer read).2.answers reads

def Read.move (cpu place : Nat) : Read → Nat
  | .first wanted => if wanted = cpu then 1 else place
  | .next wanted => if wanted = cpu then place + 1 else place
  | .record _ => place

/-- How far these reads have got on a CPU. Reads past its end count as well. -/
def Read.place (cpu : Nat) (reads : List Read) : Nat := reads.foldl (Read.move cpu) 0

theorem Read.place_append (cpu : Nat) (reads : List Read) (read : Read) :
    Read.place cpu (reads ++ [read]) = Read.move cpu (Read.place cpu reads) read := by
  rw [Read.place, List.foldl_append]
  rfl

def reply (document : Document) (reads : List Read) : Read → Except SourceFault (Option Record)
  | .first cpu =>
    if cpu < document.cpuCount.toNat then .ok (document.lane cpu)[0]?
    else .error (.cpuOutOfRange cpu document.cpuCount.toNat)
  | .next cpu =>
    if cpu < document.cpuCount.toNat then .ok (document.lane cpu)[Read.place cpu reads]?
    else .error (.cpuOutOfRange cpu document.cpuCount.toNat)
  | .record offset =>
    match document.rawRecords[offset.toNat]? with
    | some record => .ok (some record)
    | none => .error (.noRecordAt offset)

/-- The source of this document after these reads: each CPU has the rest of its lane before it. -/
structure StandsAt (document : Document) (reads : List Read) (replay : Replay) : Prop where
  same : replay.document = document
  size : replay.lanes.size = document.cpuCount.toNat
  lanes : ∀ cpu < document.cpuCount.toNat, replay.lanes[cpu]? =
    some ⟨document.lane cpu, (document.lane cpu).drop (Read.place cpu reads)⟩

theorem standsAt_start (made : ofDocument document = .ok (.ok replay)) :
    StandsAt document [] replay := by
  unfold ofDocument at made
  split at made
  · cases made
  · split at made
    · cases made
    · cases made
      refine ⟨rfl, by simp, fun cpu present => ?_⟩
      simp [present, Lane.ofList, Read.place]

namespace StandsAt

variable {reads : List Read} {read : Read} (stands : StandsAt document reads replay)

include stands

theorem advance {step : Lane Record → Option Record × Lane Record} {record : Option Record}
    (place : Nat) (present : cpu < document.cpuCount.toNat)
    (steps : step ⟨document.lane cpu, (document.lane cpu).drop (Read.place cpu reads)⟩ =
      (record, ⟨document.lane cpu, (document.lane cpu).drop place⟩))
    (moves : ∀ other, Read.move other (Read.place other reads) read =
      if other = cpu then place else Read.place other reads) :
    (replay.advance cpu step).1 = .ok record ∧
      StandsAt document (reads ++ [read]) (replay.advance cpu step).2 := by
  have bound : cpu < replay.lanes.size := by rwa [stands.size]
  have lane := (Array.getElem?_eq_some_iff.mp (stands.lanes cpu present)).2
  rw [Replay.advance, dif_pos bound, lane, steps]
  refine ⟨rfl, stands.same, by simp [stands.size], fun other within => ?_⟩
  rw [Read.place_append, moves, Array.getElem?_set]
  by_cases same : other = cpu
  · simp [same]
  · simp [same, Ne.symm same, stands.lanes other within]

theorem advance_beyond (step : Lane Record → Option Record × Lane Record)
    (beyond : document.cpuCount.toNat ≤ cpu) :
    replay.advance cpu step = (.error (.cpuOutOfRange cpu document.cpuCount.toNat), replay) := by
  have absent : ¬cpu < replay.lanes.size := by
    rw [stands.size]
    omega
  rw [Replay.advance, dif_neg absent, stands.same]

theorem stay (stays : ∀ cpu < document.cpuCount.toNat,
      Read.move cpu (Read.place cpu reads) read = Read.place cpu reads) :
    StandsAt document (reads ++ [read]) replay :=
  { stands with
    lanes := fun cpu present => by
      rw [Read.place_append, stays cpu present]
      exact stands.lanes cpu present }

theorem beyond {step : Lane Record → Option Record × Lane Record}
    (beyond : document.cpuCount.toNat ≤ cpu) (stays : ∀ cpu < document.cpuCount.toNat,
      Read.move cpu (Read.place cpu reads) read = Read.place cpu reads) :
    (replay.advance cpu step).1 = .error (.cpuOutOfRange cpu document.cpuCount.toNat) ∧
      StandsAt document (reads ++ [read]) (replay.advance cpu step).2 := by
  rw [stands.advance_beyond step beyond]
  exact ⟨rfl, stands.stay stays⟩

theorem answer_record (offset : UInt64) :
    replay.answer (.record offset) = (reply document reads (.record offset), replay) := by
  simp only [answer, reply, RecordSource.recordAt, stands.same, Document.getElem?_rawRecords]
  cases document.records[offset.toNat]? <;> rfl

theorem answer (read : Read) :
    (replay.answer read).1 = reply document reads read ∧
      StandsAt document (reads ++ [read]) (replay.answer read).2 := by
  cases read with
  | first cpu =>
      by_cases present : cpu < document.cpuCount.toNat
      · rw [reply, if_pos present]
        exact stands.advance 1 present (by simp [Lane.first, List.head?_eq_getElem?])
          (by grind [Read.move])
      · rw [reply, if_neg present]
        exact stands.beyond (Nat.le_of_not_lt present) (by grind [Read.move])
  | next cpu =>
      by_cases present : cpu < document.cpuCount.toNat
      · rw [reply, if_pos present]
        exact stands.advance (Read.place cpu reads + 1) present (by simp [Lane.next])
          (by grind [Read.move])
      · rw [reply, if_neg present]
        exact stands.beyond (Nat.le_of_not_lt present) (by grind [Read.move])
  | record offset =>
      rw [stands.answer_record]
      exact ⟨rfl, stands.stay fun _ _ => rfl⟩

end StandsAt

theorem standsAt_after {before : List Read} (stands : StandsAt document before replay)
    (reads : List Read) : StandsAt document (before ++ reads) (replay.after reads) := by
  induction reads generalizing before replay with
  | nil => rwa [List.append_nil]
  | cons read reads ih =>
      rw [List.append_cons]
      exact ih (stands.answer read).2

theorem Read.place_onward {between : List Read} (onward : Read.first cpu ∉ between) (start : Nat) :
    between.foldl (Read.move cpu) start = start + between.count (.next cpu) := by
  induction between generalizing start with
  | nil => rfl
  | cons read between ih =>
      simp only [List.mem_cons, not_or] at onward
      obtain ⟨other, onward⟩ := onward
      rw [List.foldl_cons, ih onward, List.count_cons]
      cases read with
      | first wanted =>
          have differ : wanted ≠ cpu := fun same => other (by rw [same])
          simp [Read.move, differ]
      | next wanted =>
          by_cases same : wanted = cpu
          · simp [Read.move, same]
            omega
          · simp [Read.move, same]
      | record => simp [Read.move]

theorem Read.place_rewound {reads between : List Read} (onward : Read.first cpu ∉ between) :
    Read.place cpu (reads ++ .first cpu :: between) = between.count (.next cpu) + 1 := by
  rw [Read.place, List.foldl_append, List.foldl_cons, Read.place_onward onward]
  simp [Read.move, Nat.add_comm]

/-- The source of this document plays it back, whatever was read before.

* Until a CPU is rewound, it gives its lane record by record, and then nothing more; and again so
  after it is rewound, whatever other reads come in between.
* A load gives all lanes in full.
* Every record is found at its offset, and no others are.
* A CPU that the document does not have is refused, and nothing is disturbed by that. -/
structure PlaysBack (document : Document) (replay : Replay) : Prop where
  start : ∀ cpu < document.cpuCount.toNat, ∀ reads, .first cpu ∉ reads →
    ((replay.after reads).answer (.next cpu)).1 =
      .ok (document.lane cpu)[reads.count (.next cpu)]?
  first : ∀ cpu < document.cpuCount.toNat, ∀ reads,
    ((replay.after reads).answer (.first cpu)).1 = .ok (document.lane cpu)[0]?
  next : ∀ cpu < document.cpuCount.toNat, ∀ reads between, .first cpu ∉ between →
    ((replay.after (reads ++ .first cpu :: between)).answer (.next cpu)).1 =
      .ok (document.lane cpu)[between.count (.next cpu) + 1]?
  load : ∀ reads, (readAll (replay.after reads)).1 =
    ⟨(List.range document.cpuCount.toNat).map document.lane, none⟩
  record : ∀ reads, ∀ record ∈ document.rawRecords,
    (replay.after reads).answer (.record record.offset) = (.ok (some record), replay.after reads)
  noRecord : ∀ reads offset, document.records.length ≤ offset.toNat →
    (replay.after reads).answer (.record offset) =
      (.error (.noRecordAt offset), replay.after reads)
  beyond : ∀ cpu, document.cpuCount.toNat ≤ cpu → ∀ reads, ∀ read ∈ [.first cpu, .next cpu],
    (replay.after reads).answer read =
      (.error (.cpuOutOfRange cpu document.cpuCount.toNat), replay.after reads)

theorem StandsAt.lanes_eq {reads : List Read} (stands : StandsAt document reads replay) :
    replay.lanes.toList.map Lane.all = (List.range document.cpuCount.toNat).map document.lane := by
  apply List.ext_getElem?
  intro cpu
  rw [List.getElem?_map, List.getElem?_map, Array.getElem?_toList]
  by_cases present : cpu < document.cpuCount.toNat
  · simp [stands.lanes cpu present, present]
  · have size := stands.size
    rw [Array.getElem?_eq_none (by omega), List.getElem?_eq_none (by simp; omega)]
    rfl

theorem plays_back (sized : document.IsSized) (made : ofDocument document = .ok (.ok replay)) :
    PlaysBack document replay := by
  have stands := fun reads => standsAt_after (standsAt_start made) reads
  simp only [List.nil_append] at stands
  exact {
    start := fun cpu present reads onward => by
      rw [((stands reads).answer (.next cpu)).1, reply, if_pos present, Read.place,
        Read.place_onward onward, Nat.zero_add]
    first := fun cpu present reads => by
      rw [((stands reads).answer (.first cpu)).1, reply, if_pos present]
    next := fun cpu present reads between onward => by
      rw [((stands _).answer (.next cpu)).1, reply, if_pos present, Read.place_rewound onward]
    load := fun reads => by
      obtain ⟨_, delivers, _⟩ :=
        (isTape document).delivers ⟨(stands reads).same, (stands reads).size.symm⟩
      rw [readAll_eq_iff.mpr delivers, (stands reads).lanes_eq]
    record := fun reads record member => by
      obtain ⟨index, placed⟩ := List.getElem?_of_mem member
      rw [(stands reads).answer_record, reply, sized.offset_eq placed, placed]
    noRecord := fun reads offset outside => by
      rw [← Document.length_rawRecords] at outside
      rw [(stands reads).answer_record, reply, List.getElem?_eq_none outside]
    beyond := fun cpu outside reads read member => by
      rcases List.mem_pair.mp member with rfl | rfl
      · exact (stands reads).advance_beyond Lane.first outside
      · exact (stands reads).advance_beyond Lane.next outside }

end Replay

end KernelTrace
