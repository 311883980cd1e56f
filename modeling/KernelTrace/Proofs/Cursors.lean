import KernelTrace.Proofs.Playback

/-! The reader of a trace document as positions and cursors into it. No index is out of bounds, and it
answers as the lanes do. -/

namespace KernelTrace

/-- For each CPU the places of its records in the document, by time, and how many of them were read.
Where an index is out of bounds, the reader has no answer. -/
structure Cursors where
  document : Document
  places : List (List Nat)
  cursors : List Nat

namespace Cursors

open Replay (Read reply)

def deal (cpuCount : Nat) (lists : List (List Nat)) (written : DocumentRecord × Nat) :
    Except SourceFault (List (List Nat)) :=
  match lists[written.1.cpu.toNat]? with
  | some list => .ok (lists.set written.1.cpu.toNat (list ++ [written.2]))
  | none => .error (.corrupt (.strayRecord written.2 written.1.cpu.toNat cpuCount))

def byTime (document : Document) (places : List Nat) : Option (List Nat) := do
  let timed ← places.mapM fun place => do pure ((← document.records[place]?).ts, place)
  pure ((timed.mergeSort fun a b => a.1 ≤ b.1).map (·.2))

def ofDocument (document : Document) : Option (Opening Cursors) :=
  let count := document.cpuCount.toNat
  if maxLanes < count then some (.error ⟨"capacity overflow"⟩)
  else
    match document.records.zipIdx.foldlM (deal count) (List.replicate count []) with
    | .error fault => some (.ok (.error fault))
    | .ok lists => (lists.mapM (byTime document)).map fun places =>
      .ok (.ok ⟨document, places, List.replicate count 0⟩)

def record? (reader : Cursors) (place : Nat) : Option Record :=
  reader.document.records[place]?.map (·.at place)

def moveTo (reader : Cursors) (cpu position : Nat) : Option Cursors :=
  if cpu < reader.cursors.length then
    some { reader with cursors := reader.cursors.set cpu position }
  else none

def answer (reader : Cursors) : Read → Option (Except SourceFault (Option Record) × Cursors)
  | .first cpu =>
    match reader.places[cpu]? with
    | none => some (.error (.cpuOutOfRange cpu reader.document.cpuCount.toNat), reader)
    | some places => do
      let moved ← reader.moveTo cpu 1
      match places[0]? with
      | none => pure (.ok none, moved)
      | some place => pure (.ok (some (← reader.record? place)), moved)
  | .next cpu =>
    let position := reader.cursors[cpu]?.getD 0
    match reader.places[cpu]? with
    | none => some (.error (.cpuOutOfRange cpu reader.document.cpuCount.toNat), reader)
    | some places =>
      match places[position]? with
      | none => some (.ok none, reader)
      | some place => do
        let moved ← reader.moveTo cpu (position + 1)
        pure (.ok (some (← reader.record? place)), moved)
  | .record offset =>
    if reader.document.records.length ≤ offset.toNat then some (.error (.noRecordAt offset), reader)
    else do pure (.ok (some (← reader.record? offset.toNat)), reader)

variable {document : Document} {cpu : Nat} {written : DocumentRecord} {index : Nat}

/-- The records of a CPU in the order of its lane, each with its place in the document. -/
def placed (document : Document) (cpu : Nat) : List (DocumentRecord × Nat) :=
  (document.records.zipIdx.filter (·.1.cpu.toNat = cpu)).mergeSort fun a b => a.1.ts ≤ b.1.ts

theorem lane_eq_map (document : Document) (cpu : Nat) :
    document.lane cpu = (placed document cpu).map fun written => written.1.at written.2 := by
  have raw : document.rawRecords =
      document.records.zipIdx.map fun written => written.1.at written.2 :=
    List.mapIdx_eq_zipIdx_map
  rw [Document.lane, raw, List.filter_map, placed]
  symm
  apply List.map_mergeSort
  intro a _ b _
  rfl

theorem written_of_mem_placed (member : (written, index) ∈ placed document cpu) :
    document.records[index]? = some written := by
  rw [placed, List.mem_mergeSort, List.mem_filter] at member
  exact List.mk_mem_zipIdx_iff_getElem?.mp member.1

theorem mapM_eq_some {α β : Type} {step : α → Option β} {change : α → β} {items : List α}
    (steps : ∀ item ∈ items, step item = some (change item)) :
    items.mapM step = some (items.map change) := by
  induction items with
  | nil => rfl
  | cons item items ih =>
      obtain ⟨first, rest⟩ := List.forall_mem_cons.mp steps
      simp [List.mapM_cons, first, ih rest]

theorem byTime_eq_some (document : Document) (cpu : Nat) :
    byTime document ((document.records.zipIdx.filter (·.1.cpu.toNat = cpu)).map (·.2)) =
      some ((placed document cpu).map (·.2)) := by
  generalize dealt : document.records.zipIdx.filter (·.1.cpu.toNat = cpu) = here
  have timed : (here.map (·.2)).mapM
      (fun place => do pure ((← document.records[place]?).ts, place)) =
        some (here.map fun written => (written.1.ts, written.2)) := by
    rw [List.mapM_map]
    apply mapM_eq_some
    intro written member
    rw [← dealt, List.mem_filter] at member
    simp [List.mk_mem_zipIdx_iff_getElem?.mp member.1]
  have sorted : (here.map fun written => (written.1.ts, written.2)).mergeSort
      (fun a b => a.1 ≤ b.1) =
        (here.mergeSort fun a b => a.1.ts ≤ b.1.ts).map fun written => (written.1.ts, written.2) := by
    symm
    apply List.map_mergeSort
    intro a _ b _
    rfl
  rw [byTime, timed, placed, dealt]
  simp [sorted, Function.comp_def]

theorem foldlM_deal (count : Nat) {records : List (DocumentRecord × Nat)}
    {lists : List (List Nat)}
    (complete : ∀ written ∈ records, written.1.cpu.toNat < lists.length) :
    ∃ dealt, records.foldlM (deal count) lists = .ok dealt ∧ dealt.length = lists.length ∧
      ∀ cpu list, lists[cpu]? = some list →
        dealt[cpu]? = some (list ++ (records.filter (·.1.cpu.toNat = cpu)).map (·.2)) := by
  induction records generalizing lists with
  | nil => exact ⟨lists, rfl, rfl, by simp⟩
  | cons written records ih =>
      obtain ⟨first, rest⟩ := List.forall_mem_cons.mp complete
      have step : deal count lists written = .ok (lists.set written.1.cpu.toNat
          (lists[written.1.cpu.toNat] ++ [written.2])) := by
        rw [deal, List.getElem?_eq_getElem first]
      have others : ∀ other ∈ records, other.1.cpu.toNat < (lists.set written.1.cpu.toNat
          (lists[written.1.cpu.toNat] ++ [written.2])).length := by
        simpa using rest
      obtain ⟨dealt, made, length, gives⟩ := ih others
      refine ⟨dealt, ?_, by rw [length, List.length_set], ?_⟩
      · rw [List.foldlM_cons, step]
        exact made
      · intro cpu list found
        by_cases same : written.1.cpu.toNat = cpu
        · subst same
          rw [gives _ _ (List.getElem?_set_self first)]
          obtain ⟨_, rfl⟩ := List.getElem?_eq_some_iff.mp found
          simp
        · rw [gives cpu list (by rw [List.getElem?_set_ne same, found])]
          simp [same]

theorem foldlM_deal_zipIdx {records : List DocumentRecord} {count : Nat}
    (complete : ∀ written ∈ records, written.cpu.toNat < count) :
    records.zipIdx.foldlM (deal count) (List.replicate count []) =
      .ok ((List.range count).map fun cpu =>
        (records.zipIdx.filter (·.1.cpu.toNat = cpu)).map (·.2)) := by
  have within : ∀ written ∈ records.zipIdx,
      written.1.cpu.toNat < (List.replicate count ([] : List Nat)).length := by
    intro written member
    rw [List.length_replicate]
    exact complete _ (List.fst_mem_of_mem_zipIdx member)
  obtain ⟨dealt, made, length, gives⟩ := foldlM_deal count within
  rw [List.length_replicate] at length
  rw [made]
  refine congrArg Except.ok (List.ext_getElem? fun cpu => ?_)
  by_cases present : cpu < count
  · rw [gives cpu [] (by simp [present])]
    simp [present]
  · rw [List.getElem?_eq_none (by omega), List.getElem?_eq_none (by simp; omega)]

theorem ofDocument_eq_ok (opens : document.Opens) :
    ofDocument document = some (.ok (.ok
      { document
        places := (List.range document.cpuCount.toNat).map fun cpu =>
          (placed document cpu).map (·.2)
        cursors := List.replicate document.cpuCount.toNat 0 })) := by
  obtain ⟨allotted, complete⟩ := opens
  have sorted : ((List.range document.cpuCount.toNat).map fun cpu =>
      (document.records.zipIdx.filter (·.1.cpu.toNat = cpu)).map (·.2)).mapM (byTime document) =
        some ((List.range document.cpuCount.toNat).map fun cpu =>
          (placed document cpu).map (·.2)) := by
    rw [List.mapM_map]
    exact mapM_eq_some fun cpu _ => byTime_eq_some document cpu
  simp only [ofDocument, if_neg (Nat.not_lt.mpr allotted), foldlM_deal_zipIdx complete, sorted,
    Option.map_some]

theorem ofDocument_of_unallotted (unallotted : maxLanes < document.cpuCount.toNat) :
    ofDocument document = some (.error ⟨"capacity overflow"⟩) := if_pos unallotted

theorem ofDocument_of_stray (allotted : document.cpuCount.toNat ≤ maxLanes)
    (placed : document.records[index]? = some written)
    (stray : document.cpuCount.toNat ≤ written.cpu.toNat)
    (first : ∀ earlier ∈ document.records.take index,
      earlier.cpu.toNat < document.cpuCount.toNat) :
    ofDocument document =
      some (.ok (.error (.corrupt
        (.strayRecord index written.cpu.toNat document.cpuCount.toNat)))) := by
  obtain ⟨bound, found⟩ := List.getElem?_eq_some_iff.mp placed
  have split : document.records.zipIdx = (document.records.take index).zipIdx ++
      (written, index) :: (document.records.drop (index + 1)).zipIdx (index + 1) := by
    have parts : document.records =
        document.records.take index ++ written :: document.records.drop (index + 1) := by
      rw [← found, ← List.drop_eq_getElem_cons bound, List.take_append_drop]
    conv_lhs => rw [parts, List.zipIdx_append, List.zipIdx_cons]
    simp [Nat.min_eq_left (Nat.le_of_lt bound)]
  have stopped : document.records.zipIdx.foldlM (deal document.cpuCount.toNat)
      (List.replicate document.cpuCount.toNat []) =
        .error (.corrupt (.strayRecord index written.cpu.toNat document.cpuCount.toNat)) := by
    rw [split, List.foldlM_append, foldlM_deal_zipIdx first]
    simp only [bind, Except.bind, List.foldlM_cons, deal]
    rw [List.getElem?_eq_none (by simpa using stray)]
  simp only [ofDocument, if_neg (Nat.not_lt.mpr allotted), stopped]

structure StandsAt (document : Document) (reads : List Read) (reader : Cursors) : Prop where
  same : reader.document = document
  places : reader.places =
    (List.range document.cpuCount.toNat).map fun cpu => (placed document cpu).map (·.2)
  count : reader.cursors.length = document.cpuCount.toNat
  /-- A cursor stops at the end, where reads go on counting. -/
  cursors : ∀ cpu < document.cpuCount.toNat, ∃ position, reader.cursors[cpu]? = some position ∧
    min position (document.lane cpu).length = min (Read.place cpu reads) (document.lane cpu).length

variable {reader : Cursors} {reads : List Read}

namespace StandsAt

variable (stands : StandsAt document reads reader)

include stands

theorem moveTo (read : Read) (position place : Nat) (present : cpu < document.cpuCount.toNat)
    (near : min position (document.lane cpu).length = min place (document.lane cpu).length)
    (moves : ∀ other, Read.move other (Read.place other reads) read =
      if other = cpu then place else Read.place other reads) :
    ∃ moved, reader.moveTo cpu position = some moved ∧
      StandsAt document (reads ++ [read]) moved := by
  have bound : cpu < reader.cursors.length := by rwa [stands.count]
  refine ⟨_, if_pos bound, stands.same, stands.places, ?_, fun other within => ?_⟩
  · simp [stands.count]
  · rw [Replay.Read.place_append, moves]
    by_cases same : other = cpu
    · subst same
      exact ⟨position, by simp [bound], by rw [if_pos rfl, near]⟩
    · obtain ⟨before, here, near⟩ := stands.cursors other within
      exact ⟨before, by simp [Ne.symm same, here], by rw [if_neg same, near]⟩

theorem stay {read : Read} (stays : ∀ cpu < document.cpuCount.toNat,
      min (Read.move cpu (Read.place cpu reads) read) (document.lane cpu).length =
        min (Read.place cpu reads) (document.lane cpu).length) :
    StandsAt document (reads ++ [read]) reader :=
  { stands with
    cursors := fun cpu present => by
      obtain ⟨position, here, near⟩ := stands.cursors cpu present
      exact ⟨position, here, by rw [Replay.Read.place_append, stays cpu present, near]⟩ }

theorem places_eq_some (present : cpu < document.cpuCount.toNat) :
    reader.places[cpu]? = some ((placed document cpu).map (·.2)) := by
  simp [stands.places, present]

theorem places_eq_none (beyond : document.cpuCount.toNat ≤ cpu) : reader.places[cpu]? = none := by
  simp [stands.places, beyond]

theorem record?_of_placed {position : Nat} {record : DocumentRecord × Nat}
    (found : (placed document cpu)[position]? = some record) :
    reader.record? record.2 = some (record.1.at record.2) := by
  rw [record?, stands.same, written_of_mem_placed (List.mem_of_getElem? found)]
  rfl

theorem answer_first (cpu : Nat) :
    ∃ later, reader.answer (.first cpu) = some (reply document reads (.first cpu), later) ∧
      StandsAt document (reads ++ [.first cpu]) later := by
  by_cases present : cpu < document.cpuCount.toNat
  · obtain ⟨moved, moves, later⟩ := stands.moveTo (.first cpu) 1 1 present rfl
      (by grind [Read.move])
    refine ⟨moved, ?_, later⟩
    simp only [answer, reply, stands.places_eq_some present, moves, if_pos present, lane_eq_map,
      List.getElem?_map]
    cases found : (placed document cpu)[0]? with
    | none => rfl
    | some record => simp [stands.record?_of_placed found]
  · have beyond := Nat.le_of_not_lt present
    refine ⟨reader, ?_, stands.stay (by grind [Read.move])⟩
    simp only [answer, reply, stands.places_eq_none beyond, if_neg present, stands.same]

theorem answer_next (cpu : Nat) :
    ∃ later, reader.answer (.next cpu) = some (reply document reads (.next cpu), later) ∧
      StandsAt document (reads ++ [.next cpu]) later := by
  by_cases present : cpu < document.cpuCount.toNat
  · obtain ⟨position, here, near⟩ := stands.cursors cpu present
    have length : (document.lane cpu).length = (placed document cpu).length := by
      rw [lane_eq_map, List.length_map]
    have seen : (document.lane cpu)[Read.place cpu reads]? =
        (placed document cpu)[position]?.map fun written => written.1.at written.2 := by
      rw [← List.getElem?_map, ← lane_eq_map]
      grind
    simp only [answer, reply, stands.places_eq_some present, here, if_pos present, seen,
      Option.getD_some, List.getElem?_map]
    cases found : (placed document cpu)[position]? with
    | none =>
        -- at the end already, so the cursor stays
        have ended := List.getElem?_eq_none_iff.mp found
        exact ⟨reader, rfl, stands.stay (by grind [Read.move])⟩
    | some record =>
        have within := (List.getElem?_eq_some_iff.mp found).1
        obtain ⟨moved, moves, later⟩ := stands.moveTo (.next cpu) (position + 1)
          (Read.place cpu reads + 1) present (by omega) (by grind [Read.move])
        exact ⟨moved, by simp [moves, stands.record?_of_placed found], later⟩
  · have beyond := Nat.le_of_not_lt present
    refine ⟨reader, ?_, stands.stay (by grind [Read.move])⟩
    simp only [answer, reply, stands.places_eq_none beyond, if_neg present, stands.same]

theorem answer_record (offset : UInt64) :
    reader.answer (.record offset) = some (reply document reads (.record offset), reader) := by
  simp only [answer, reply, record?, stands.same, Document.getElem?_rawRecords]
  by_cases beyond : document.records.length ≤ offset.toNat
  · simp [beyond]
  · have within := Nat.lt_of_not_le beyond
    simp [within]

/-- No index is out of bounds, and the answer is that of the lanes. -/
theorem answers (read : Read) :
    ∃ later, reader.answer read = some (reply document reads read, later) ∧
      StandsAt document (reads ++ [read]) later := by
  cases read with
  | first cpu => exact stands.answer_first cpu
  | next cpu => exact stands.answer_next cpu
  | record offset => exact ⟨reader, stands.answer_record offset, stands.stay fun _ _ => rfl⟩

end StandsAt

def answers (reader : Cursors) : List Read → Option (List (Except SourceFault (Option Record)))
  | [] => some []
  | read :: reads => do
    let (reply, later) ← reader.answer read
    pure (reply :: (← later.answers reads))

theorem answers_eq {replay : Replay} {before : List Read}
    (stands : StandsAt document before reader) (same : Replay.StandsAt document before replay)
    (reads : List Read) : reader.answers reads = some (replay.answers reads) := by
  induction reads generalizing reader replay before with
  | nil => rfl
  | cons read reads ih =>
      obtain ⟨later, answered, onward⟩ := stands.answers read
      obtain ⟨reply, alongside⟩ := same.answer read
      simp [answers, answered, ih onward alongside, Replay.answers, reply]

theorem standsAt_start (opens : document.Opens) :
    ∃ reader, ofDocument document = some (.ok (.ok reader)) ∧ StandsAt document [] reader := by
  refine ⟨_, ofDocument_eq_ok opens, rfl, rfl, List.length_replicate, fun cpu present => ?_⟩
  exact ⟨0, by simp [present], by simp [Read.place]⟩

end Cursors

/-- A trace document is opened just when it has the CPU of each of its records and not more CPUs than
an array has room for. With more of them opening panics; otherwise the first record without its CPU is
named. An opened document plays back every record once, each CPU in time order and records of one time
in document order, and a record's offset is its place. The reader never indexes out of bounds. -/
theorem Document.is_played_back (document : Document) (sized : document.IsSized) :
    ((∃ replay, Replay.ofDocument document = .ok (.ok replay)) ↔
      document.cpuCount.toNat ≤ maxLanes ∧
        ∀ written ∈ document.records, written.cpu.toNat < document.cpuCount.toNat) ∧
    (maxLanes < document.cpuCount.toNat →
      Replay.ofDocument document = .error ⟨"capacity overflow"⟩ ∧
      Cursors.ofDocument document = some (.error ⟨"capacity overflow"⟩)) ∧
    (document.cpuCount.toNat ≤ maxLanes → ∀ index written,
      document.records[index]? = some written →
      document.cpuCount.toNat ≤ written.cpu.toNat →
      (∀ earlier ∈ document.records.take index, earlier.cpu.toNat < document.cpuCount.toNat) →
      Replay.ofDocument document = .ok (.error (.corrupt
        (.strayRecord index written.cpu.toNat document.cpuCount.toNat))) ∧
      Cursors.ofDocument document = some (.ok (.error (.corrupt
        (.strayRecord index written.cpu.toNat document.cpuCount.toNat))))) ∧
    (∀ cpu, (document.lane cpu).Perm
        (document.rawRecords.filter fun record => record.cpu.toNat = cpu) ∧
      (document.lane cpu).Pairwise (fun a b => a.ts ≤ b.ts) ∧
      ∀ time, (document.lane cpu).filter (·.ts = time) =
        (document.rawRecords.filter fun record => record.cpu.toNat = cpu).filter (·.ts = time)) ∧
    (∀ index (record : Record), document.rawRecords[index]? = some record →
      record.offset.toNat = index) ∧
    ∀ replay, Replay.ofDocument document = .ok (.ok replay) →
      ((List.range document.cpuCount.toNat).flatMap document.lane).Perm document.rawRecords ∧
      Replay.PlaysBack document replay ∧
      ∃ reader, Cursors.ofDocument document = some (.ok (.ok reader)) ∧
        ∀ reads, reader.answers reads = some (replay.answers reads) := by
  refine ⟨Replay.ofDocument_eq_ok_iff, ?_, ?_, fun cpu => ⟨document.lane_perm cpu, ?_⟩, ?_, ?_⟩
  · intro unallotted
    exact ⟨Replay.ofDocument_of_unallotted unallotted, Cursors.ofDocument_of_unallotted unallotted⟩
  · intro allotted index written placed stray first
    exact ⟨Replay.ofDocument_of_stray sized allotted placed stray first,
      Cursors.ofDocument_of_stray allotted placed stray first⟩
  · exact ⟨document.lane_ordered cpu, document.lane_stable cpu⟩
  · exact fun index record => sized.offset_eq
  · intro replay made
    have opens := Replay.ofDocument_eq_ok_iff.mp ⟨replay, made⟩
    obtain ⟨reader, opened, stands⟩ := Cursors.standsAt_start opens
    exact ⟨opens.2.lanes_perm, Replay.plays_back sized made, reader, opened,
      Cursors.answers_eq stands (Replay.standsAt_start made)⟩

def mixedDocument : Document where
  cpuCount := 2
  records := [⟨30, 0, 7, 1, 0, [], none⟩, ⟨10, 0, 8, 1, 0, [], none⟩, ⟨20, 1, 9, 1, 0, [], none⟩]

theorem mixedDocument_is_played_back :
    ∃ replay, Replay.ofDocument mixedDocument = .ok (.ok replay) ∧
      ((replay.after [.next 1, .first 0, .first 7, .next 1]).answer (.next 0)).1 =
        .ok (some ⟨30, 0, 7, 1, 0, 0, []⟩) ∧
      ((replay.after [.next 1, .first 0, .next 0, .record 2]).answer (.next 0)).1 = .ok none := by
  have lane : mixedDocument.lane 0 = [⟨10, 0, 8, 1, 1, 0, []⟩, ⟨30, 0, 7, 1, 0, 0, []⟩] := by
    simp [Document.lane, Document.rawRecords, mixedDocument, DocumentRecord.at, List.mergeSort]
  have sized : mixedDocument.IsSized := (by decide : 3 < UInt64.size)
  obtain ⟨opens, _, _, _, _, plays⟩ := mixedDocument.is_played_back sized
  obtain ⟨replay, made⟩ := opens.mpr (by decide)
  obtain ⟨_, back, _⟩ := plays replay made
  have second := back.next 0 (by decide) [.next 1] [.first 7, .next 1] (by decide)
  have ended := back.next 0 (by decide) [.next 1] [.next 0, .record 2] (by decide)
  rw [lane] at second ended
  exact ⟨replay, made, second, ended⟩

def crowdedDocument : Document where
  cpuCount := 18446744073709551615
  records := []

/-- Opening this document panics, although none of its records lacks a CPU. -/
theorem crowdedDocument_is_not_opened :
    ¬∀ document : Document, document.IsSized →
      ((∃ replay, Replay.ofDocument document = .ok (.ok replay)) ↔
        ∀ written ∈ document.records, written.cpu.toNat < document.cpuCount.toNat) := by
  intro claimed
  have panics : Replay.ofDocument crowdedDocument = .error ⟨"capacity overflow"⟩ :=
    Replay.ofDocument_of_unallotted (by decide)
  have sized : crowdedDocument.IsSized := (by decide : 0 < UInt64.size)
  obtain ⟨replay, made⟩ := (claimed crowdedDocument sized).mpr fun written member => nomatch member
  rw [panics] at made
  cases made

end KernelTrace
