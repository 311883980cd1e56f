import Mathlib
import KernelTrace.Command.Run
import KernelTrace.Proofs.RoundTrips
import KernelTrace.Proofs.Timelines

namespace KernelTrace

namespace Document

def describe (document : Document) (entry : Entry) : String × String :=
  if entry.isLost then ("missed_events", "missed_events=" ++ toString entry.offset)
  else
    ((document.events.find? entry.eventId).getD (Session.unknownEvent entry.eventId),
      (document.records[entry.offset.toNat]?.bind (·.info)).getD "")

def line (document : Document) (entry : Entry) : String :=
  toString entry.ts ++ "; " ++ (document.tasks.find? entry.pid).getD Session.unknownTask ++ "-"
    ++ toString entry.pid ++ "; CPU " ++ toString entry.cpu ++ "; "
    ++ (document.describe entry).1 ++ "; " ++ (document.describe entry).2
    ++ "; 0x" ++ Text.hex entry.visible.toNat

end Document

def DumpItem.line (item : DumpItem) : String := item.document.line item.entry

def Stream.Shows (stream : Stream Replay) (document : Document) : Prop :=
  stream.poisoned = false ∧ stream.source.document = document

namespace TraceSession

variable {session : TraceSession} {stream : Stream Replay} {document : Document} {entry : Entry}

theorem usableSource_of_shows (found : session.stream entry.stream = .ok stream)
    (shows : stream.Shows document) :
    session.usableSource entry.stream = .ok stream.source := by
  have usable : stream.usable = .ok stream.source := Stream.usable_eq_ok.mpr ⟨shows.1, rfl⟩
  rw [Session.usableSource, found]
  exact usable

theorem recordAt_of_shows (found : session.stream entry.stream = .ok stream)
    (shows : stream.Shows document) {written : DocumentRecord}
    (placed : document.records[entry.offset.toNat]? = some written) :
    runFrom (Session.recordAt entry.stream entry.offset) session =
      (.ok (written.at entry.offset.toNat), session) := by
  have read : RecordSource.recordAt stream.source entry.offset =
      (.ok (written.at entry.offset.toNat), stream.source) := by
    simp only [RecordSource.recordAt, shows.2, placed]
  simp only [Session.recordAt, runFrom_mk, usableSource_of_shows found shows, read]
  rw [Session.modifyStream_of_same found rfl]
  rfl

theorem describe_of_shows (found : session.stream entry.stream = .ok stream)
    (shows : stream.Shows document)
    (placed : entry.isLost = false → entry.offset.toNat < document.records.length) :
    runFrom (Session.describe entry) session = (.ok (document.describe entry), session) := by
  rw [Session.describe, Document.describe, Entry.lostCount?]
  cases lost : entry.isLost with
  | true => rfl
  | false =>
      have usable := usableSource_of_shows found shows
      have here := List.getElem?_eq_getElem (placed lost)
      have offset : (UInt64.ofNat entry.offset.toNat).toNat = entry.offset.toNat := by
        rw [UInt64.ofNat_toNat]
      have got : runFrom (ExceptT.mk do pure ((← get).usableSource entry.stream) :
          ReadStep Replay Empty Empty Replay) session = (.ok stream.source, session) := by
        rw [← usable]
        rfl
      simp only [Bool.false_eq_true, if_false]
      rw [runFrom_bind_ok (recordAt_of_shows found shows here), runFrom_bind_ok got]
      simp only [RecordSource.eventName, RecordSource.infoOf, DocumentRecord.at, offset, shows.2]
      rfl

theorem entryLine_of_shows (found : session.stream entry.stream = .ok stream)
    (shows : stream.Shows document)
    (placed : entry.isLost = false → entry.offset.toNat < document.records.length) :
    runFrom (Session.entryLine entry) session = (.ok (document.line entry), session) := by
  have task : session.taskName entry.stream entry.pid = .ok (document.tasks.find? entry.pid) := by
    rw [Session.taskName, usableSource_of_shows found shows, ← shows.2]
    rfl
  have got : runFrom (ExceptT.mk do pure ((← get).taskName entry.stream entry.pid) :
      ReadStep Replay Empty Empty (Option String)) session =
        (.ok (document.tasks.find? entry.pid), session) := by
    rw [← task]
    rfl
  have described := describe_of_shows found shows placed
  rw [Session.entryLine, runFrom_bind_ok got, runFrom_bind_ok described]
  rfl

variable {settings : Settings} {streams : List (Stream Replay)} {documents : List Document}
  {files : Files} {paths : List String}

theorem appendTraces_step (options : Options) (holds : Holds session settings streams)
    (provides : files.Provides path document) (room : streams.length < settings.maxStreams.toNat)
    (named : streams.length < maxSlots) (paths : List String) (offsets : List Int64)
    (prior : List Entry) :
    ∃ after stream, stream.Shows document ∧ Holds after settings (streams ++ [stream]) ∧
      appendTraces files options.rules (path :: paths) offsets prior session =
        appendTraces files options.rules paths offsets.tail
          (mergePair prior (mergeLanes (document.lanes.map
            (options.loader settings streams.length offsets.head?).listing))) after := by
  obtain ⟨replay, opened, serves, opens, fresh⟩ := holds.openFile provides room named
  obtain ⟨filtered, filters, ready⟩ := fresh.addFilters named options.rules
  obtain ⟨_, _, after, still, ran, last⟩ := ready.append_with_clock named rfl serves
    options.content_filters rfl prior (offsets.head?.map Clock.offset)
  rw [ready.loader_eq] at ran
  refine ⟨after.1, _, ⟨rfl, still.sound.1⟩, last, ?_⟩
  have appended := SessionStep.perform_of_ok ran
  rw [appendTraces, opens]
  simp only [bind, Except.bind, Except.mapError, filters, appended]
  rfl

theorem appendTraces_of_provides (options : Options) (within : settings.maxStreams.toNat ≤ maxSlots)
    (provides : List.Forall₂ files.Provides paths documents) (offsets : List Int64)
    (prior : List Entry) (holds : Holds session settings streams)
    (room : streams.length + documents.length ≤ settings.maxStreams.toNat) :
    ∃ after more,
      appendTraces files options.rules paths offsets prior session =
        .ok (mergeTwo prior (mergeLanes (documents.mapIdx fun index document =>
          mergeLanes (document.lanes.map
            (options.loader settings (streams.length + index) offsets[index]?).listing))), after) ∧
      Holds after settings (streams ++ more) ∧ List.Forall₂ Stream.Shows more documents := by
  induction provides generalizing offsets prior session streams with
  | nil =>
      refine ⟨session, [], ?_, by rwa [List.append_nil], .nil⟩
      rw [List.mapIdx_nil, mergeLanes_nil, mergeTwo_nil_right]
      rfl
  | @cons path document paths documents first _ ih =>
      rw [List.length_cons] at room
      have space : streams.length < settings.maxStreams.toNat := by omega
      obtain ⟨loaded, stream, shown, ready, step⟩ := appendTraces_step options holds first space
        (Nat.lt_of_lt_of_le space within) paths offsets prior
      have left : (streams ++ [stream]).length + documents.length ≤ settings.maxStreams.toNat := by
        rw [List.length_append, List.length_singleton]
        omega
      obtain ⟨after, more, rest, last, shows⟩ := ih offsets.tail _ ready left
      rw [List.append_assoc, List.singleton_append] at last
      refine ⟨after, stream :: more, step.trans (rest.trans ?_), last, .cons shown shows⟩
      refine congrArg Except.ok (Prod.ext ?_ rfl)
      rw [List.mapIdx_cons, mergeLanes_cons, mergePair_eq_mergeTwo, mergeTwo_assoc,
        List.head?_eq_getElem?]
      simp only [List.length_append, List.length_singleton, List.getElem?_tail, Nat.add_assoc,
        Nat.add_comm 1, Nat.add_zero]

end TraceSession

theorem offset_lt_of_mem {document : Document} {record : Record}
    (member : record ∈ document.rawRecords) : record.offset.toNat < document.records.length := by
  obtain ⟨index, placed⟩ := List.getElem?_of_mem member
  obtain ⟨written, found, rfl⟩ := Document.written_of_getElem? placed
  have bound := (List.getElem?_eq_some_iff.mp found).1
  have offset : (written.at index).offset.toNat = index % UInt64.size := UInt64.toNat_ofNat
  exact Nat.lt_of_le_of_lt (offset ▸ Nat.mod_le _ _) bound

theorem dumpLines_of_items {session : TraceSession} {items : List DumpItem}
    (each : ∀ item ∈ items,
      runFrom (Session.entryLine item.entry) session = (.ok item.line, session)) :
    dumpLines session (items.map (·.entry)) = (items.map DumpItem.line, none) := by
  induction items with
  | nil => rfl
  | cons item items ih =>
      have first := each item List.mem_cons_self
      have others := ih fun other member => each other (List.mem_cons_of_mem item member)
      rw [runFrom] at first
      rw [List.map_cons, dumpLines, first]
      simp only [others, List.map_cons]

section

variable {files : Files} {config : Option String} {options : Options} {settings : Settings}
  {documents : List Document} {session : TraceSession} {streams : List (Stream Replay)}

theorem TraceSession.Holds.entryLine (holds : Holds session settings streams)
    (shows : List.Forall₂ Stream.Shows streams documents) (within : documents.length ≤ maxSlots)
    {item : DumpItem} (member : item ∈ options.timeline settings documents) :
    runFrom (Session.entryLine item.entry) session = (.ok item.line, session) := by
  obtain ⟨place, document, placed, rfl, present, made⟩ := Options.mem_timeline member
  obtain ⟨bound, same⟩ := List.getElem?_eq_some_iff.mp placed
  obtain ⟨lengths, all⟩ := List.forall₂_iff_get.mp shows
  have opened : place < streams.length := by omega
  have shown : streams[place].Shows item.document := same ▸ all place opened bound
  have stream : item.entry.stream = .nth place := by
    rcases made with ⟨_, entry⟩ | ⟨_, _, entry⟩ <;> rw [entry] <;> rfl
  have found := holds.found (Nat.lt_of_lt_of_le bound within) (List.getElem?_eq_getElem opened)
  rw [← stream] at found
  refine entryLine_of_shows found shown fun counted => ?_
  rcases made with ⟨_, entry⟩ | ⟨_, _, entry⟩
  · rw [entry]
    exact offset_lt_of_mem present
  · rw [entry] at counted
    cases counted

theorem hasCpus_of_provides {paths : List String}
    (provides : List.Forall₂ files.Provides paths documents) :
    ∀ document ∈ documents, document.HasCpus := by
  induction provides with
  | nil => exact fun document member => nomatch member
  | cons first _ ih => exact List.forall_mem_cons.mpr ⟨first.2.2, ih⟩

theorem runDump_of_provides (configures : TraceSession.Configures files settings config)
    (provides : List.Forall₂ files.Provides options.traces documents)
    (room : documents.length ≤ settings.maxStreams.toNat) (fits : options.Fits documents) :
    runDump files config options =
      { output := (options.shown settings documents).map DumpItem.line
        notices := ["Loaded " ++ toString (options.timeline settings documents).length
          ++ " entries from " ++ toString options.traces.length ++ " traces"] } := by
  obtain ⟨start, started, fresh⟩ := TraceSession.start_of_configures configures
  have within := configures.within.2
  obtain ⟨after, streams, appended, holds, shows⟩ := TraceSession.appendTraces_of_provides options
    within provides options.offsets [] fresh (by simpa using room)
  have merged := options.merged_eq_timeline settings fits
  rw [Options.listings, map_mapIdx] at merged
  simp only [List.length_nil, Nat.zero_add, mergeTwo_nil_left, merged] at appended
  have loaded : ((TraceSession.start files config).mapError Failure.fault >>= fun session =>
      appendTraces files options.rules options.traces options.offsets [] session) =
        .ok ((options.timeline settings documents).map (·.entry), after) := by
    rw [bind_eq_ok]
    exact ⟨start, by rw [started]; rfl, appended⟩
  have lines :
      dumpLines after (options.select ((options.timeline settings documents).map (·.entry))) =
        ((options.shown settings documents).map DumpItem.line, none) := by
    rw [Options.select_timeline]
    apply dumpLines_of_items
    intro item member
    exact holds.entryLine shows (room.trans within) (Options.mem_timeline_of_shown member)
  rw [runDump]
  dsimp only
  rw [loaded]
  dsimp only
  rw [lines, List.length_map]

/-- A dump of documents that can be opened prints the lines of the wanted items in time order, up to
the limit. The items are the records of all documents and, once more, each loss before one. -/
theorem dump_prints_wanted (configures : TraceSession.Configures files settings config)
    (provides : List.Forall₂ files.Provides options.traces documents)
    (room : documents.length ≤ settings.maxStreams.toNat) (fits : options.Fits documents) :
    (⟨config, .dump options⟩ : Invocation).run files =
      { output := (options.shown settings documents).map DumpItem.line
        notices := ["Loaded " ++ toString (options.timeline settings documents).length
          ++ " entries from " ++ toString options.traces.length ++ " traces"] } ∧
    (((options.timeline settings documents).filter (!·.marks)).map (·.record)).Perm
      (documents.flatMap Document.rawRecords) ∧
    (((options.timeline settings documents).filter (·.marks)).map (·.record)).Perm
      ((documents.flatMap Document.rawRecords).filter (·.missed ≠ 0)) := by
  have complete := hasCpus_of_provides provides
  refine ⟨runDump_of_provides configures provides room fits, ?_, ?_⟩
  · have all : ∀ records : List Record, records.filter (fun _ => true) = records :=
      List.filter_true
    rw [← all (documents.flatMap _)]
    exact options.records_of_timeline settings complete fun mask place document records =>
      (options.records_of_laneItems mask place document none records).1.trans (all records).symm
  · exact options.records_of_timeline settings complete fun mask place document records =>
      (options.records_of_laneItems mask place document none records).2

end

def firstDocument : Document where
  cpuCount := 2
  events := .ofList [(1, "sched")]
  tasks := .ofList [(7, "sh")]
  records :=
    [⟨30, 0, 7, 1, 0, [], none⟩, ⟨45, 0, 8, 2, 3, [], none⟩, ⟨50, 0, 7, 1, 2, [], none⟩,
      ⟨20, 1, 7, 1, 0, [], some "x"⟩]

def secondDocument : Document where
  cpuCount := 1
  records := [⟨20, 0, 9, 1, 0, [], none⟩]

def pairFiles : Files := fun path =>
  .ok (if path = "a.json" then firstDocument else secondDocument).save.toUTF8

/-- The second document is shifted so that its record meets one of the first. Task 8 is hidden. -/
def pairOptions : Options where
  traces := ["a.json", "b.json"]
  offsets := [0, 10]
  hidePids := [8]

theorem provides_pair :
    List.Forall₂ pairFiles.Provides pairOptions.traces [firstDocument, secondDocument] := by
  have complete : ∀ document ∈ [firstDocument, secondDocument], ∀ record ∈ document.records,
      record.cpu.toNat < document.cpuCount.toNat := by decide
  exact .cons ⟨firstDocument.load_save, by decide, complete _ (by simp)⟩
    (.cons ⟨secondDocument.load_save, by decide, complete _ (by simp)⟩ .nil)

theorem fits_pair : pairOptions.Fits [firstDocument, secondDocument] := by
  have first : ∀ record ∈ firstDocument.rawRecords, ∀ time ∈ record.times, IsTime (time + 0) := by
    decide
  have second : ∀ record ∈ secondDocument.rawRecords, ∀ time ∈ record.times,
      IsTime (time + 10) := by decide
  intro place document shift placed given
  rcases place with _ | _ | place
  · cases placed
    cases given
    exact first
  · cases placed
    cases given
    exact second
  · cases placed

/-- The six lines that are left of seven items. Those of time 30 stand by trace. The first loss is
shown ten nanoseconds before its record, the second at the record before. -/
theorem dump_prints_pair :
    (⟨none, .dump pairOptions⟩ : Invocation).run pairFiles =
      { output :=
          ["20; sh-7; CPU 1; sched; x; 0xff", "30; sh-7; CPU 0; sched; ; 0xff",
            "30; <...>-9; CPU 0; event-1; ; 0xff",
            "35; <...>-8; CPU 0; missed_events; missed_events=3; 0xff",
            "45; sh-7; CPU 0; missed_events; missed_events=2; 0xff",
            "50; sh-7; CPU 0; sched; ; 0xff"]
        notices := ["Loaded 7 entries from 2 traces"] } := by
  have configures : TraceSession.Configures pairFiles {} none := rfl
  obtain ⟨ran, _⟩ := dump_prints_wanted configures provides_pair (by decide) fits_pair
  have lines : (pairOptions.shown {} [firstDocument, secondDocument]).map DumpItem.line =
      ["20; sh-7; CPU 1; sched; x; 0xff", "30; sh-7; CPU 0; sched; ; 0xff",
        "30; <...>-9; CPU 0; event-1; ; 0xff",
        "35; <...>-8; CPU 0; missed_events; missed_events=3; 0xff",
        "45; sh-7; CPU 0; missed_events; missed_events=2; 0xff",
        "50; sh-7; CPU 0; sched; ; 0xff"] := by cbv
  have count : (pairOptions.timeline {} [firstDocument, secondDocument]).length = 7 := by cbv
  rw [ran, lines, count]
  rfl

end KernelTrace
