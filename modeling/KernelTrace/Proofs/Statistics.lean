import KernelTrace.Command.Run
import KernelTrace.Proofs.Commands
import KernelTrace.Proofs.Ids
import KernelTrace.Proofs.RoundTrips
import Mathlib.Algebra.BigOperators.Group.List.Lemmas
import Mathlib.Algebra.GroupWithZero.Nat

/-! What `stats` tells of a trace document. Loss markers are known by their event id alone, so records
under that id pass for markers: they are not counted, and their offsets are told as lost events. -/

namespace KernelTrace

section

variable {ids others : List Int32} {id : Int32} {count : Nat}

theorem tally_of_perm (perm : ids.Perm others) : tally ids = tally others := by
  have same : IdSet.ofList ids = IdSet.ofList others :=
    IdSet.eq_of_mem_iff fun id => by rw [IdSet.mem_ofList, IdSet.mem_ofList, perm.mem_iff]
  rw [tally, same, tally]
  exact List.map_congr_left fun id _ => by rw [perm.count_eq]

theorem mem_tally : (id, count) ∈ tally ids ↔ 0 < count ∧ ids.count id = count := by
  rw [tally, List.mem_map]
  constructor
  · rintro ⟨other, member, same⟩
    cases same
    rw [IdSet.mem_ofList] at member
    exact ⟨List.count_pos_iff.mpr member, rfl⟩
  · rintro ⟨some, rfl⟩
    exact ⟨id, IdSet.mem_ofList.mpr (List.count_pos_iff.mp some), rfl⟩

theorem tally_ascending (ids : List Int32) : (tally ids).Pairwise fun a b => a.1 < b.1 :=
  List.pairwise_map.mpr (IdSet.ofList ids).ascending

theorem sum_tally (ids : List Int32) : ((tally ids).map Prod.snd).sum = ids.length := by
  have distinct : (IdSet.ofList ids).ids.Perm ids.dedup := by
    rw [List.perm_ext_iff_of_nodup ((IdSet.ofList ids).ascending.imp Int32.ne_of_lt)
      ids.nodup_dedup]
    intro id
    rw [IdSet.mem_ofList, List.mem_dedup]
  calc ((tally ids).map Prod.snd).sum
    _ = ((IdSet.ofList ids).ids.map ids.count).sum := by rw [tally, List.map_map]; rfl
    _ = (ids.dedup.map ids.count).sum := (distinct.map ids.count).sum_eq
    _ = ids.length := List.sum_map_count_dedup_eq_length ids

theorem sorted_tally (ids : List Int32) :
    ((tally ids).mergeSort fun a b => b.2 ≤ a.2).Pairwise fun a b =>
      b.2 < a.2 ∨ b.2 = a.2 ∧ a.1 < b.1 := by
  have trans : ∀ a b c : Int32 × Nat, decide (b.2 ≤ a.2) → decide (c.2 ≤ b.2) →
      decide (c.2 ≤ a.2) := by grind
  have total : ∀ a b : Int32 × Nat, decide (b.2 ≤ a.2) || decide (a.2 ≤ b.2) := by grind
  refine (pairwise_mergeSort_ties trans total (tally_ascending ids)).imp ?_
  intro a b ⟨below, ties⟩
  rw [decide_eq_true_eq] at below ties
  rcases Nat.lt_or_eq_of_le below with less | same
  · exact .inl less
  · exact .inr ⟨same, ties same.ge⟩

end

/-- The statistics are those of these records, with so many events lost, counted modulo `2 ^ 64`. CPU
numbers are read as signed numbers, as in the rows that show them. -/
structure Stats.Tells (stats : Stats) (records : List Record) (lost : Nat) : Prop where
  total : stats.total = records.length
  lost : stats.lost = .ofNat lost
  cpus : stats.perCpu.Pairwise fun a b => a.1 < b.1
  cpu : ∀ (cpu : UInt32) (count : Nat),
    (cpu.toInt32, count) ∈ stats.perCpu ↔ 0 < count ∧ records.countP (·.cpu = cpu) = count
  cpuSum : (stats.perCpu.map Prod.snd).sum = stats.total
  events : stats.perEvent.Pairwise fun a b => b.2 < a.2 ∨ b.2 = a.2 ∧ a.1 < b.1
  event : ∀ (eventId : Int32) (count : Nat),
    (eventId, count) ∈ stats.perEvent ↔ 0 < count ∧ records.countP (·.eventId = eventId) = count
  eventSum : (stats.perEvent.map Prod.snd).sum = stats.total

def lostSum (entries : List Entry) : Nat := ((entries.filterMap Entry.lostCount?).map (·.toNat)).sum

theorem foldl_add_counts (counts : List UInt64) (start : UInt64) :
    counts.foldl (fun sum count => sum + count) start =
      start + .ofNat (counts.map (·.toNat)).sum := by
  induction counts generalizing start with
  | nil => exact (UInt64.add_zero start).symm
  | cons count counts ih =>
      rw [List.foldl_cons, ih, List.map_cons, List.sum_cons, UInt64.ofNat_add,
        UInt64.ofNat_toNat, UInt64.add_assoc]

theorem Stats.lost_ofEntries (entries : List Entry) :
    (ofEntries entries).lost = .ofNat (lostSum entries) :=
  (foldl_add_counts _ 0).trans (UInt64.zero_add _)

theorem toInt32_injective : Function.Injective UInt32.toInt32 :=
  fun _ _ same => congrArg Int32.toUInt32 same

theorem Stats.tells_of_perm {H : Type} {loader : Loader H} {entries : List Entry}
    {records : List Record}
    (counted : (entries.filter (!·.isLost)).Perm (records.map loader.plain)) :
    (ofEntries entries).Tells records (lostSum entries) := by
  have cpus : tally ((entries.filter (!·.isLost)).map (·.cpu)) =
      tally (records.map (·.cpu.toInt32)) := by
    rw [tally_of_perm (counted.map (·.cpu)), List.map_map]
    rfl
  have events : tally ((entries.filter (!·.isLost)).map (·.eventId)) =
      tally (records.map (·.eventId)) := by
    rw [tally_of_perm (counted.map (·.eventId)), List.map_map]
    rfl
  have total : (entries.filter (!·.isLost)).length = records.length := by
    rw [counted.length_eq, List.length_map]
  have sorted := List.mergeSort_perm (tally (records.map (·.eventId))) fun a b => b.2 ≤ a.2
  refine ⟨total, lost_ofEntries entries, ?_, ?_, ?_, ?_, ?_, ?_⟩
  · exact tally_ascending _
  · intro cpu count
    simp only [ofEntries, cpus, mem_tally]
    rw [List.count, List.countP_map]
    have same : ((· == cpu.toInt32) ∘ fun record : Record => record.cpu.toInt32) =
        fun record => decide (record.cpu = cpu) := by
      funext record
      rw [Bool.eq_iff_iff, decide_eq_true_eq, ← toInt32_injective.eq_iff]
      exact beq_iff_eq
    rw [same]
  · simp only [ofEntries, cpus, sum_tally, List.length_map, total]
  · simp only [ofEntries, events]
    exact sorted_tally _
  · intro eventId count
    simp only [ofEntries, events]
    rw [sorted.mem_iff, mem_tally, List.count, List.countP_map]
    rfl
  · simp only [ofEntries, events]
    rw [(sorted.map Prod.snd).sum_eq, sum_tally, List.length_map, total]

section

variable {H : Type} {loader : Loader H}

theorem counted_withMarkers (previous : Option Int64) (records : List Record) :
    (loader.withMarkers previous (records.map fun record => (record, loader.plain record))).filter
        (!·.isLost) =
      (records.filter (·.eventId ≠ Entry.lostId)).map loader.plain := by
  induction records generalizing previous with
  | nil => rfl
  | cons record records ih =>
      have passes : (loader.plain record).isLost = decide (record.eventId = Entry.lostId) := rfl
      have marks : (loader.marker record previous).isLost = true := rfl
      rw [List.map_cons, Loader.withMarkers]
      split <;> by_cases lost : record.eventId = Entry.lostId <;> simp [passes, marks, lost, ih]

/-- The events told as lost where these records are loaded. -/
def lostTold (records : List Record) : Nat :=
  (records.map fun record =>
    record.missed.toNat + if record.eventId = Entry.lostId then record.offset.toNat else 0).sum

theorem lostSum_cons (entry : Entry) (entries : List Entry) :
    lostSum (entry :: entries) =
      (if entry.isLost then entry.offset.toNat else 0) + lostSum entries := by
  by_cases lost : entry.isLost <;> simp [lostSum, Entry.lostCount?, lost]

theorem lostSum_withMarkers (previous : Option Int64) (records : List Record) :
    lostSum (loader.withMarkers previous
      (records.map fun record => (record, loader.plain record))) = lostTold records := by
  induction records generalizing previous with
  | nil => rfl
  | cons record records ih =>
      have passes : (loader.plain record).isLost = decide (record.eventId = Entry.lostId) := rfl
      have offset : (loader.plain record).offset = record.offset := rfl
      have marks : (loader.marker record previous).isLost = true := rfl
      have carries : (loader.marker record previous).offset = record.missed := rfl
      have told : lostTold (record :: records) = record.missed.toNat +
          (if record.eventId = Entry.lostId then record.offset.toNat else 0) + lostTold records :=
        List.sum_cons
      rw [List.map_cons, Loader.withMarkers, told, ← ih (some (loader.plain record).ts)]
      split
      · rename_i whole
        simp [lostSum_cons, passes, offset, whole]
      · simp [lostSum_cons, passes, offset, marks, carries, Nat.add_assoc]

theorem lostSum_listings (lanes : List (List Record)) :
    lostSum (lanes.map loader.listing).flatten = lostTold lanes.flatten := by
  induction lanes with
  | nil => rfl
  | cons lane lanes ih =>
      calc lostSum (loader.listing lane ++ (lanes.map loader.listing).flatten)
        _ = lostSum (loader.listing lane) + lostSum (lanes.map loader.listing).flatten := by
          simp [lostSum]
        _ = lostTold lane + lostTold lanes.flatten := by
          rw [ih, Loader.listing, lostSum_withMarkers]
        _ = lostTold (lane :: lanes).flatten := by simp [lostTold]

theorem counted_listings (lanes : List (List Record)) :
    (lanes.map loader.listing).flatten.filter (!·.isLost) =
      (lanes.flatten.filter (·.eventId ≠ Entry.lostId)).map loader.plain := by
  rw [List.filter_flatten, List.map_map, List.filter_flatten, List.map_flatten, List.map_map]
  exact congrArg List.flatten (List.map_congr_left fun lane _ => counted_withMarkers none lane)

/-- Merging shuffles the entries of the CPUs, and the document shares its records out among them, so
both come down to the records as they stand in the document. -/
theorem Stats.tells_of_lanes (loader : Loader H) {lanes : List (List Record)}
    {records : List Record} (shared : lanes.flatten.Perm records) :
    (ofEntries (mergeLanes (lanes.map loader.listing))).Tells
      (records.filter (·.eventId ≠ Entry.lostId)) (lostTold records) := by
  have merged := mergeLanes_perm (lanes.map loader.listing)
  have lost : lostSum (mergeLanes (lanes.map loader.listing)) = lostTold records := by
    calc lostSum (mergeLanes (lanes.map loader.listing))
      _ = lostSum (lanes.map loader.listing).flatten := ((merged.filterMap _).map _).sum_eq
      _ = lostTold lanes.flatten := lostSum_listings lanes
      _ = lostTold records := (shared.map _).sum_eq
  have counted := merged.filter (!·.isLost)
  rw [counted_listings] at counted
  rw [← lost]
  exact tells_of_perm (counted.trans ((shared.filter _).map loader.plain))

end

def Stats.lines (stats : Stats) (path : String) (document : Document) : List String :=
  let rows := stats.perEvent.map fun (eventId, count) =>
    eventLine ((document.events.find? eventId).getD (Session.unknownEvent eventId)) (toString count)
      (Text.alignRight 7 (Fixed.render 1 (stats.percent count)) ++ "%")
  stats.headLines path document.cpuCount.toNat ++ stats.cpuLines
    ++ (eventLine "Event" "Count" (Text.alignRight 8 "Percent") :: Text.rule 45 :: rows)
    ++ stats.durationLines

theorem Stats.eventLines_of_names {stats : Stats} {nameOf : Int32 → Except Fault (Option String)}
    {names : Int32 → Option String} (named : ∀ eventId, nameOf eventId = .ok (names eventId)) :
    stats.eventLines nameOf =
      .ok (eventLine "Event" "Count" (Text.alignRight 8 "Percent") :: Text.rule 45 ::
        stats.perEvent.map fun (eventId, count) =>
          eventLine ((names eventId).getD (Session.unknownEvent eventId)) (toString count)
            (Text.alignRight 7 (Fixed.render 1 (stats.percent count)) ++ "%")) := by
  rw [eventLines, bind_eq_ok]
  refine ⟨_, mapM_eq_ok.mpr (List.forall₂_map_right_iff.mpr (List.forall₂_same.mpr ?_)), rfl⟩
  rintro ⟨eventId, count⟩ _
  dsimp only
  rw [named]
  rfl

variable {files : Files} {config : Option String} {path : String} {settings : Settings}
  {document : Document}

theorem ofTrace_of_provides (configures : TraceSession.Configures files settings config)
    (provides : files.Provides path document) :
    ∃ session stream, ∃ loader : Loader Empty,
      TraceSession.ofTrace files config path =
        .ok (session, .nth 0, mergeLanes (document.lanes.map loader.listing)) ∧
      session.stream (.nth 0) = .ok stream ∧ stream.poisoned = false ∧
      stream.cpuCount = document.cpuCount.toNat ∧ stream.source.Serves document := by
  obtain ⟨positive, _⟩ := configures.within
  have named : ([] : List (Stream Replay)).length < maxSlots := by decide
  obtain ⟨start, started, fresh⟩ := TraceSession.start_of_configures configures
  obtain ⟨replay, opened, serves, opens, holds⟩ := fresh.openFile provides positive named
  obtain ⟨after, tasks, state, still, loaded, last⟩ := holds.load named rfl serves rfl
  refine ⟨state.1, _, opened.loader (.ofSource (.nth 0) path replay), ?_, last.found_last named,
    rfl, ?_, still⟩
  · rw [TraceSession.ofTrace, bind_eq_ok]
    refine ⟨start, by rw [started]; rfl, ?_⟩
    rw [bind_eq_ok]
    refine ⟨(.nth 0, opened), opens, ?_⟩
    rw [bind_eq_ok]
    exact ⟨_, SessionStep.perform_of_ok loaded, rfl⟩
  · exact congrArg (·.cpuCount.toNat) serves.sound.1

theorem stats_of_provides (configures : TraceSession.Configures files settings config)
    (provides : files.Provides path document) :
    ∃ stats : Stats,
      (⟨config, .stats path⟩ : Invocation).run files = { output := stats.lines path document } ∧
      stats.Tells (document.rawRecords.filter (·.eventId ≠ Entry.lostId))
        (lostTold document.rawRecords) := by
  obtain ⟨session, stream, loader, ran, found, unspoilt, count, serves⟩ :=
    ofTrace_of_provides configures provides
  refine ⟨_, ?_, Stats.tells_of_lanes loader provides.2.2.lanes_perm⟩
  have named : ∀ eventId,
      session.eventName (.nth 0) eventId = .ok (document.events.find? eventId) := by
    intro eventId
    rw [Session.eventName, Session.usableSource, found, ← serves.sound.1]
    rw [show (Except.ok stream : Except Fault _).bind Stream.usable = .ok stream.source from
      Stream.usable_eq_ok.mpr ⟨unspoilt, rfl⟩]
    rfl
  have shown : statsLines session (.nth 0) path (mergeLanes (document.lanes.map loader.listing)) =
      .ok ((Stats.ofEntries (mergeLanes (document.lanes.map loader.listing))).lines path
        document) := by
    rw [statsLines, bind_eq_ok]
    refine ⟨stream, found, ?_⟩
    rw [bind_eq_ok]
    refine ⟨_, Stats.eventLines_of_names named, ?_⟩
    rw [count]
    rfl
  change runStats files config path = _
  rw [runStats, ran]
  change Report.ofLines ((statsLines session _ path _).mapError Failure.fault) = _
  rw [shown]
  rfl

/-- Run on a document that can be opened, `stats` shows the statistics of its records without those
under the id of the loss markers. They are the statistics of all of its records, with the events lost
before these, exactly where no record is under that id. -/
theorem stats_counts_records (configures : TraceSession.Configures files settings config)
    (provides : files.Provides path document) :
    ∃ stats : Stats,
      (⟨config, .stats path⟩ : Invocation).run files = { output := stats.lines path document } ∧
      stats.Tells (document.rawRecords.filter (·.eventId ≠ Entry.lostId))
        (lostTold document.rawRecords) ∧
      (stats.Tells document.rawRecords (document.rawRecords.map (·.missed.toNat)).sum ↔
        ∀ record ∈ document.rawRecords, record.eventId ≠ Entry.lostId) := by
  obtain ⟨stats, ran, tells⟩ := stats_of_provides configures provides
  refine ⟨stats, ran, tells, ?_, ?_⟩
  · intro whole
    have all := tells.total.symm.trans whole.total
    rw [List.length_filter_eq_length_iff] at all
    exact fun record member => of_decide_eq_true (all record member)
  · intro apart
    have kept : document.rawRecords.filter (·.eventId ≠ Entry.lostId) = document.rawRecords :=
      List.filter_eq_self.mpr fun record member => decide_eq_true (apart record member)
    have lost : lostTold document.rawRecords = (document.rawRecords.map (·.missed.toNat)).sum := by
      rw [lostTold]
      exact congrArg List.sum (List.map_congr_left fun record member => by
        rw [if_neg (apart record member), Nat.add_zero])
    rwa [kept, lost] at tells

def lostIdText : String :=
  "\x7b\"n_cpus\":1,\"records\":["
    ++ "\x7b\"ts\":5,\"cpu\":0,\"pid\":7,\"event_id\":1\x7d,"
    ++ "\x7b\"ts\":6,\"cpu\":0,\"pid\":7,\"event_id\":-75\x7d]\x7d"

def lostIdDocument : Document where
  cpuCount := 1
  records := [⟨5, 0, 7, 1, 0, [], none⟩, ⟨6, 0, 7, Entry.lostId, 0, [], none⟩]

def lostIdFiles : Files := fun _ => .ok lostIdText.toUTF8

theorem provides_lostIdDocument (path : String) : lostIdFiles.Provides path lostIdDocument := by
  have loaded : Document.load (.ok lostIdText.toUTF8) = .ok lostIdDocument :=
    (Document.load_toUTF8 lostIdText).trans (by decide +kernel)
  have complete : ∀ record ∈ lostIdDocument.records,
      record.cpu.toNat < lostIdDocument.cpuCount.toNat := by decide
  exact ⟨loaded, by decide, complete⟩

/-- The second record is not counted, and its place in the document is told as a number of lost
events. -/
theorem stats_of_lostIdDocument :
    ∃ stats : Stats,
      (⟨none, .stats "t.json"⟩ : Invocation).run lostIdFiles =
        { output := stats.lines "t.json" lostIdDocument } ∧
      stats.total = 1 ∧ stats.lost = 1 ∧
      ¬ stats.Tells lostIdDocument.rawRecords 0 := by
  have configures : TraceSession.Configures lostIdFiles {} none := rfl
  obtain ⟨stats, ran, tells, whole⟩ :=
    stats_counts_records configures (provides_lostIdDocument "t.json")
  exact ⟨stats, ran, tells.total, tells.lost, fun all => absurd (whole.mp all) (by decide)⟩

/-- Not every document gets its own statistics. -/
theorem stats_miscounts_lostIdDocument :
    ¬ ∀ (files : Files) (config : Option String) (settings : Settings) (path : String)
      (document : Document), TraceSession.Configures files settings config →
      files.Provides path document →
      (document.rawRecords.map (·.missed.toNat)).sum < UInt64.size →
      ∃ stats : Stats,
        (⟨config, .stats path⟩ : Invocation).run files = { output := stats.lines path document } ∧
        stats.Tells document.rawRecords (document.rawRecords.map (·.missed.toNat)).sum := by
  intro counts
  have configures : TraceSession.Configures lostIdFiles {} none := rfl
  have provides := provides_lostIdDocument "t.json"
  obtain ⟨claimed, shows, whole⟩ := counts _ _ _ _ _ configures provides (by decide)
  obtain ⟨stats, ran, tells⟩ := stats_of_provides configures provides
  have third : ∀ stats : Stats, (stats.lines "t.json" lostIdDocument)[2]? =
      some ("Entries: " ++ toString stats.total) := fun _ => rfl
  have lines : claimed.lines "t.json" lostIdDocument = stats.lines "t.json" lostIdDocument :=
    congrArg Report.output (shows.symm.trans ran)
  have same := congrArg (·[2]?) lines
  simp only [third, whole.total, tells.total] at same
  exact absurd same (by decide)

end KernelTrace
