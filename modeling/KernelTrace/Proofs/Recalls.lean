import KernelTrace.Proofs.Anchors
import KernelTrace.Proofs.Indexes
import KernelTrace.Proofs.Playback
import KernelTrace.Proofs.Provenance
import KernelTrace.Proofs.Recompute

namespace KernelTrace

variable {S H K σ : Type}

namespace Session

variable [RecordSource S] [Plugin H σ] {session later : Session S H K} {handle : Handle} {host : σ}
  {after : Session S H K × σ} {entries list kept : List Entry}

theorem unfiltered_of_answers {action : Action S H K} (sound : session.Sound)
    (rewrites : action.rewrites = true) (uses : action.Uses entries)
    (answers : Answers action (session, host) list after) :
    list.map Entry.unfiltered = entries.map Entry.unfiltered := by
  cases answers with
  | load | loadAll | append => cases rewrites
  | refilter done =>
      cases uses
      exact unfiltered_of_refilter sound.maskClear done
  | refilterAll done =>
      cases uses
      exact unfiltered_of_refilterAll sound.maskClear done
  | clearFilters =>
      cases uses
      exact unfiltered_of_clearFilters session entries

variable [DecidableEq H] [DecidableEq K] [Condition K]

/-- What a caller makes of a session and a list without closing this stream: actions of any kind,
among them recomputes that write to the list. -/
inductive Tended (handle : Handle) (session : Session S H K) (list : List Entry) :
    Session S H K → List Entry → Prop
  | start : Tended handle session list session list
  | acted {later : Session S H K} {kept : List Entry} {host : σ} (action : Action S H K) :
      Tended handle session list later kept → action.Spares handle →
      Tended handle session list (runFrom (perform action) (later, host)).2.1 kept
  | wrote {later : Session S H K} {kept written : List Entry} {host : σ} (action : Action S H K) :
      Tended handle session list later kept → action.rewrites = true → action.Uses kept →
      (runFrom (perform action) (later, host)).1 = .ok (some written) →
      Tended handle session list (runFrom (perform action) (later, host)).2.1 written

theorem Tended.reachable (tended : Tended handle session list later kept)
    (reachable : Reachable session) : Reachable later := by
  induction tended with
  | start => exact reachable
  | acted action _ _ ih => exact .acted action ih
  | wrote action _ _ _ _ ih => exact .acted action ih

theorem Tended.keeps {holds : Session S H K → Prop}
    (each : ∀ (action : Action S H K) (session after : Session S H K), session.Sound →
      action.Spares handle → Relation.ReflTransGen (Moves action) session after →
      holds session → holds after)
    (tended : Tended handle session list later kept) (reachable : Reachable session)
    (start : holds session) : holds later := by
  induction tended with
  | start => exact start
  | @acted later _ host action tended spares ih =>
      have sound := (tended.reachable reachable).sound
      exact each action _ _ sound spares (follows_perform action (later, host)) ih
  | @wrote later _ _ host action tended rewrites _ _ ih =>
      have spares : action.Spares handle := by
        constructor <;> rintro rfl <;> cases rewrites
      have sound := (tended.reachable reachable).sound
      exact each action _ _ sound spares (follows_perform action (later, host)) ih

theorem Tended.reads {source : S} (tended : Tended handle session list later kept)
    (reachable : Reachable session) (reads : session.Reads handle source) :
    later.Reads handle source :=
  tended.keeps (fun _ _ _ sound spares moves => reads_of_moves moves sound spares) reachable reads

theorem Tended.unfiltered (tended : Tended handle session list later kept)
    (reachable : Reachable session) :
    kept.map Entry.unfiltered = list.map Entry.unfiltered := by
  induction tended with
  | start => rfl
  | acted _ _ _ ih => exact ih
  | wrote action tended rewrites uses wrote ih =>
      have sound := (tended.reachable reachable).sound
      have answers := answers_of_perform (Prod.ext wrote rfl)
      exact (unfiltered_of_answers sound rewrites uses answers).trans ih

theorem Tended.entrywise (tended : Tended handle session list later kept)
    (reachable : Reachable session) :
    List.Forall₂ (fun entry now => now.unfiltered = entry.unfiltered) list kept :=
  entrywise_of_unfiltered (tended.unfiltered reachable)

end Session

section

variable {T : Type} [RecordSource T] {document : Document} {record : Record}

/-- The source of the stream was opened from this document, whatever was read from it since. -/
def Stream.Plays (stream : Stream (Replay ⊕ T)) (document : Document) : Prop :=
  ∃ opened reads, Replay.ofDocument document = .ok (.ok opened) ∧
    Used (.inl (opened.after reads)) stream.source

namespace Stream.Plays

variable {stream : Stream (Replay ⊕ T)} (plays : stream.Plays document)

include plays

theorem delivers : ∃ replay after, stream.source = .inl replay ∧ replay.document = document ∧
    Delivers stream.source ((List.range document.cpuCount.toNat).map document.lane) after := by
  obtain ⟨opened, reads, made, used⟩ := plays
  have stands := Replay.standsAt_after (Replay.standsAt_start made) reads
  have tape := (Replay.isTape document).inl (T := T)
  have start : (opened.after reads).document = document ∧
      document.cpuCount.toNat = (opened.after reads).lanes.size := ⟨stands.same, stands.size.symm⟩
  obtain ⟨sound, same⟩ := tape.used (s := Sum.inl (opened.after reads)) start used
  obtain ⟨after, delivers, _⟩ := tape.delivers sound
  rw [same.trans stands.lanes_eq] at delivers
  cases source : stream.source with
  | inl replay =>
      rw [source] at sound delivers
      exact ⟨replay, after, rfl, sound.1, delivers⟩
  | inr other =>
      rw [source] at sound
      exact sound.elim

theorem records_perm {session : Session (Replay ⊕ T) H K} {handle : Handle}
    (found : session.stream handle = .ok stream) :
    (session.records handle).Perm document.rawRecords := by
  obtain ⟨_, _, _, _, delivers⟩ := plays.delivers
  obtain ⟨opened, _, made, _⟩ := plays
  have opens := Replay.ofDocument_eq_ok_iff.mp ⟨opened, made⟩
  rw [Session.records_of_delivers found delivers, ← List.flatMap_def]
  exact opens.2.lanes_perm

theorem recordAt_offset (sized : document.IsSized) (member : record ∈ document.rawRecords) :
    (RecordSource.recordAt stream.source record.offset).1 = .ok record := by
  obtain ⟨replay, _, source, rfl, _⟩ := plays.delivers
  obtain ⟨index, placed⟩ := List.getElem?_of_mem member
  obtain ⟨written, found, rfl⟩ := Document.written_of_getElem? placed
  have offset := sized.offset_eq placed
  rw [source]
  simp only [RecordSource.recordAt, Sum.elim_inl, offset, found]
  rfl

end Stream.Plays

end

namespace Session

variable [RecordSource S] {session : Session S H K} {handle : Handle} {record : Record}
  {entry : Entry}

/-- The session finds the record behind the entry, and answers for its ids. -/
structure Recalls (session : Session S H K) (record : Record) (entry : Entry) : Prop where
  found : (runFrom (recordAt entry.stream entry.offset) session).1 = .ok record
  pid : (runFrom (pidOf entry) session).1 = .ok record.pid
  eventId : (runFrom (eventIdOf entry) session).1 = .ok record.eventId

theorem own_or_read {α : Type} {own : α} {after : Session S H K} (part : Record → α)
    (read : runFrom (recordAt entry.stream entry.offset) session = (.ok record, after))
    (same : entry.isUntouched → own = part record) :
    (runFrom (if entry.isUntouched then pure own
      else do pure (part (← recordAt entry.stream entry.offset))) session).1 =
        .ok (part record) := by
  split
  · rename_i untouched
    rw [same untouched]
    rfl
  · rw [runFrom_bind_ok read]
    rfl

theorem recalls_of_isOf {stream : Stream S} (isOf : entry.IsOf handle record)
    (found : session.stream handle = .ok stream) (unspoilt : stream.poisoned = false)
    (reads : (RecordSource.recordAt stream.source record.offset).1 = .ok record) :
    session.Recalls record entry := by
  have usable := usableSource_eq_ok.mpr ⟨stream, found, unspoilt, rfl⟩
  have again : (runFrom (recordAt entry.stream entry.offset) session).1 = .ok record := by
    rw [isOf.stream, isOf.offset]
    simp only [recordAt, runFrom_mk, usable, reads]
    rfl
  exact {
    found := again
    pid := own_or_read Record.pid (Prod.ext again rfl) isOf.pid
    eventId := own_or_read Record.eventId (Prod.ext again rfl) isOf.eventId }

variable {T : Type} [RecordSource T] [Plugin H σ] [DecidableEq H] [DecidableEq K] [Condition K]

/-- Loaded entries keep their records, in every session that callers can reach. A stream of a trace
document is loaded, with plugins that leave the stream and the offset of entries alone, and the list
is kept while the stream stays open.

* The records of the stream are those of the document.
* What the load adds to earlier entries are entries of records, and loss markers.
* The entry of a record stays marked as untouched just when no hook fired, and a hook fired just
  when one was registered for the event of the record.
* Unless a panic strikes in a later load, the record is read again from the entry, and the pid and
  the event id that the session answers for the entry are the record's. -/
theorem entries_keep_their_records {session later : Session (Replay ⊕ T) H K} {host : σ}
    {after : Session (Replay ⊕ T) H K × σ} {stream : Stream (Replay ⊕ T)} {document : Document}
    {action : Action (Replay ⊕ T) H K} {list kept : List Entry} (reachable : Reachable session)
    (sized : document.IsSized) (found : session.stream handle = .ok stream)
    (plays : stream.Plays document)
    (keeps : ∀ hook ∈ session.hooks.hooks,
      Plugin.Keeps hook.plugin Entry.stream ∧ Plugin.Keeps hook.plugin Entry.offset)
    (loads : action.loads = true)
    (ran : runFrom (perform action) (session, host) = (.ok (some list), after))
    (tended : Tended handle after.1 list later kept) :
    (session.records handle).Perm document.rawRecords ∧
    ∃ last, later.stream handle = .ok last ∧
      List.Forall₂ (fun entry now =>
        (entry ∈ action.prior ∨ session.Yields entry) ∧
        ∀ record ∈ session.records handle, ∀ clock fired,
          { session.loader stream with clock }.Builds record fired entry →
            (now.isUntouched ↔ fired = []) ∧
            (fired = [] ↔ ∀ hook ∈ session.hooks.hooks,
              hook.answers handle record.eventId = false) ∧
            (last.poisoned = false → later.Recalls record now)) list kept := by
  have sound := reachable.sound
  have own : stream.handle = handle := sound.coherent.handle_of_find? (Registry.get_eq_ok.mp found)
  have records := plays.records_perm found
  have spares : action.Spares handle := by
    constructor <;> rintro rfl <;> cases loads
  have moves := follows_perform action (session, host)
  have ready := reachable.act host action
  rw [ran] at moves ready
  obtain ⟨opened, reads, made, used⟩ := plays
  obtain ⟨last, still, usedOn⟩ :=
    tended.reads ready (reads_of_moves moves sound spares ⟨stream, found, used⟩)
  have playsOn : last.Plays document := ⟨opened, reads, made, usedOn⟩
  refine ⟨records, last, still, ?_⟩
  refine (List.forall₂_and_left _ _ |>.mpr ⟨fun _ member => member, tended.entrywise ready⟩).imp ?_
  intro entry now ⟨member, same⟩
  refine ⟨yields_of_answers sound (fun hook member => (keeps hook member).1) loads
    (answers_of_perform ran) entry member, ?_⟩
  intro record present clock fired builds
  have isOf := (builds.isOf sound.maskClear keeps).of_unfiltered same
  refine ⟨?_, ?_, fun unspoilt => ?_⟩
  · rw [Entry.isUntouched_of_unfiltered same]
    exact builds.isUntouched_iff sound.maskClear
  · rw [← own]
    exact builds.fired_eq_nil_iff
  · apply recalls_of_isOf isOf _ unspoilt (playsOn.recordAt_offset sized (records.subset present))
    rw [← own] at still
    exact still

def hookedDocument : Document where
  cpuCount := 1
  records := [⟨20, 0, 7, 1, 0, [], none⟩, ⟨10, 0, 8, 2, 0, [], none⟩]

def hookedStream (replay : Replay) : Stream (Replay ⊕ Script) :=
  { handle := ⟨0, 0⟩
    name := "a"
    cpuCount := replay.document.cpuCount.toNat
    source := .inl replay }

def hookedSession (replay : Replay) : Session (Replay ⊕ Script) JournalPlugin ExtraCondition :=
  { settings := {}
    streams := { limit := 127, slots := [{ stream := some (hookedStream replay) }] }
    hooks := ⟨[⟨1, ⟨0, 0⟩, { serial := 0, label := "a", edit := .setPid 5 }⟩]⟩ }

def hookedLoader : Loader JournalPlugin :=
  { stream := ⟨0, 0⟩
    hooks := ⟨[⟨1, ⟨0, 0⟩, { serial := 0, label := "a", edit := .setPid 5 }⟩]⟩
    mask := View.text ||| View.graph ||| View.event }

theorem loader_hookedSession (replay : Replay) :
    (hookedSession replay).loader (hookedStream replay) = hookedLoader := rfl

def hookedEntries : List Entry :=
  [⟨⟨0, 0⟩, 0, 8, 2, 10, 1, 0xFF⟩, ⟨⟨0, 0⟩, 0, 5, 1, 20, 0, 0x7F⟩]

theorem reachable_hookedSession (replay : Replay) : Reachable (hookedSession replay) := by
  have opened := (Reachable.start (Replay ⊕ Script) JournalPlugin ExtraCondition).act []
    (.addSource "a" (.inl replay))
  exact opened.act [] (.addHook 1 ⟨0, 0⟩ { serial := 0, label := "a", edit := .setPid 5 })

theorem calm_hookedSession (replay : Replay) (records : List Record) :
    ((hookedSession replay).loader (hookedStream replay)).IsCalm records := by
  refine ⟨fun hook member => ?_, fun record _ => ⟨true, rfl⟩⟩
  rw [List.mem_singleton.mp member]
  exact JournalPlugin.is_calm fun payload same => nomatch same

theorem hookedDocument_opens : hookedDocument.Opens :=
  ⟨by decide, (by decide : ∀ written ∈ hookedDocument.records,
    written.cpu.toNat < hookedDocument.cpuCount.toNat)⟩

theorem load_hookedSession {replay : Replay}
    (made : Replay.ofDocument hookedDocument = .ok (.ok replay)) :
    ∃ after, runFrom (load ⟨0, 0⟩) (hookedSession replay, []) = (.ok hookedEntries, after) := by
  have lane : hookedDocument.lane 0 = [⟨10, 0, 8, 2, 1, 0, []⟩, ⟨20, 0, 7, 1, 0, 0, []⟩] := by
    simp [Document.lane, Document.rawRecords, hookedDocument, DocumentRecord.at, List.mergeSort]
  have plays : (hookedStream replay).Plays hookedDocument := ⟨replay, [], made, .unread⟩
  obtain ⟨_, _, _, _, delivers⟩ := plays.delivers
  have lanes : (List.range hookedDocument.cpuCount.toNat).map hookedDocument.lane =
      [[⟨10, 0, 8, 2, 1, 0, []⟩, ⟨20, 0, 7, 1, 0, 0, []⟩]] := congrArg (fun lane => [lane]) lane
  rw [lanes] at delivers
  have found : (hookedSession replay).stream ⟨0, 0⟩ = .ok (hookedStream replay) := rfl
  have calm := calm_hookedSession replay [⟨10, 0, 8, 2, 1, 0, []⟩, ⟨20, 0, 7, 1, 0, 0, []⟩]
  have loaded := load_of_delivers found rfl delivers calm ([] : List JournalLine)
  have alone : hookedLoader.laneEntries
      [[⟨10, 0, 8, 2, 1, 0, []⟩, ⟨20, 0, 7, 1, 0, 0, []⟩]] [] = [hookedEntries] := by decide
  rw [loader_hookedSession, alone, mergeLanes_singleton] at loaded
  exact ⟨_, Prod.ext loaded rfl⟩

/-- After all filters are dropped, the entry still tells its record from the pid that it shows. -/
theorem hooked_entry_keeps_its_record :
    ∃ (session : Session (Replay ⊕ Script) JournalPlugin ExtraCondition)
      (after : Session (Replay ⊕ Script) JournalPlugin ExtraCondition × List JournalLine),
      Reachable session ∧
      runFrom (perform (.load ⟨0, 0⟩)) (session, []) = (.ok (some hookedEntries), after) ∧
      (after.1.clearFilters hookedEntries).1 = hookedEntries ∧
      (runFrom (pidOf ⟨⟨0, 0⟩, 0, 5, 1, 20, 0, 0x7F⟩)
        (after.1.clearFilters hookedEntries).2).1 = .ok 7 := by
  have sized : hookedDocument.IsSized := (by decide : 2 < UInt64.size)
  obtain ⟨replay, made⟩ := Replay.ofDocument_eq_ok_iff.mpr hookedDocument_opens
  obtain ⟨after, loaded⟩ := load_hookedSession made
  have ran : runFrom (perform (.load ⟨0, 0⟩)) (hookedSession replay, []) =
      (.ok (some hookedEntries), after) := runFrom_bind_ok loaded
  have found : (hookedSession replay).stream ⟨0, 0⟩ = .ok (hookedStream replay) := rfl
  have plays : (hookedStream replay).Plays hookedDocument := ⟨replay, [], made, .unread⟩
  have keeps : ∀ hook ∈ (hookedSession replay).hooks.hooks,
      Plugin.Keeps hook.plugin Entry.stream ∧ Plugin.Keeps hook.plugin Entry.offset := by
    intro hook member
    rw [List.mem_singleton.mp member]
    exact ⟨JournalPlugin.keeps_of_setPid rfl fun _ _ => rfl,
      JournalPlugin.keeps_of_setPid rfl fun _ _ => rfl⟩
  have cleared : (runFrom (perform (.clearFilters hookedEntries)) (after.1, after.2)).1 =
      .ok (some hookedEntries) := rfl
  have tended : Tended ⟨0, 0⟩ after.1 hookedEntries
      (after.1.clearFilters hookedEntries).2 hookedEntries :=
    .wrote (.clearFilters hookedEntries) .start rfl rfl cleared
  have reachable := reachable_hookedSession replay
  obtain ⟨records, last, still, entries⟩ :=
    entries_keep_their_records reachable sized found plays keeps rfl ran tended
  obtain ⟨_, second, _⟩ : _ ∧ _ ∧ _ := by
    rwa [hookedEntries, List.forall₂_cons, List.forall₂_cons] at entries
  have present := records.mem_iff.mpr
    (by decide : (⟨20, 0, 7, 1, 0, 0, []⟩ : Record) ∈ hookedDocument.rawRecords)
  have builds : hookedLoader.Builds ⟨20, 0, 7, 1, 0, 0, []⟩ hookedLoader.hooks.hooks
      ⟨⟨0, 0⟩, 0, 5, 1, 20, 0, 0x7F⟩ := ⟨[], _, _, true, rfl, rfl, by decide⟩
  obtain ⟨_, _, recalls⟩ := second.2 _ present none _ builds
  have unspoilt : last.poisoned = false := by
    rw [load_eq] at loaded
    obtain ⟨_, _, result, opened, _, _, there⟩ :=
      (partlyLoaded_of_readStream loaded).loaded ⟨0, 0⟩ (List.mem_singleton.mpr rfl)
    cases opened
    rw [stream_clearFilters, there] at still
    cases still
    rfl
  exact ⟨_, after, reachable, ran, rfl, (recalls unspoilt).pid⟩

end Session

end KernelTrace
