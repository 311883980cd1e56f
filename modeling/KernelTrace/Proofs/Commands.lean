import KernelTrace.Command.Basic
import KernelTrace.Proofs.Alike
import KernelTrace.Proofs.Listings
import KernelTrace.Proofs.Playback
import KernelTrace.Proofs.Slots

namespace KernelTrace

/-- The handle of a stream in a slot that was never given back. -/
def Handle.nth (place : Nat) : Handle := ⟨UInt16.ofNat place, 0⟩

theorem Handle.slot_nth {place : Nat} (named : place < maxSlots) :
    (nth place).slot.toNat = place :=
  UInt16.toNat_ofNat_of_lt' named

namespace Registry

variable {S : Type} {limit place : Nat} {streams : List (Stream S)} {stream : Stream S}

def filled (limit : Nat) (streams : List (Stream S)) : Registry S :=
  { slots := streams.map fun stream => { stream := some stream }, limit }

theorem find?_filled (named : place < maxSlots) :
    (filled limit streams).find? (.nth place) = streams[place]? := by
  simp only [find?, filled, List.getElem?_map, Handle.slot_nth named]
  cases streams[place]? <;> rfl

theorem freeSlot?_filled (room : streams.length < limit) :
    (filled limit streams).freeSlot? = some streams.length := by
  have taken : (filled limit streams).slots.findIdx? (·.stream.isNone) = none := by
    simp [filled]
  rw [freeSlot?, taken]
  simp [filled, room]

theorem insert_filled [RecordSource S] (room : streams.length < limit)
    (named : streams.length < maxSlots) (name : String) (source : S) :
    (filled limit streams).insert name source =
      .ok (.nth streams.length,
        filled limit (streams ++ [.ofSource (.nth streams.length) name source])) := by
  simp only [insert, freeSlot?_filled room, if_pos named]
  simp [filled, Handle.nth, Stream.ofSource]

theorem modify_filled (named : streams.length < maxSlots) (change : Stream S → Stream S) :
    (filled limit (streams ++ [stream])).modify (.nth streams.length) change =
      filled limit (streams ++ [change stream]) := by
  have slot : (Handle.nth streams.length).slot.toNat = streams.length := Handle.slot_nth named
  rw [modify, find?_filled named, List.getElem?_concat_length]
  simp only [slot]
  simp [filled, Handle.nth]

end Registry

def Document.lanes (document : Document) : List (List Record) :=
  (List.range document.cpuCount.toNat).map document.lane

structure Replay.Serves (replay : Replay) (document : Document) : Prop where
  sound : replay.document = document ∧ document.cpuCount.toNat = replay.lanes.size
  lanes : replay.lanes.toList.map Lane.all = document.lanes

namespace Replay

variable {document : Document} {replay : Replay}

theorem serves_of_document (made : ofDocument document = .ok (.ok replay)) : replay.Serves document :=
  ⟨sound_of_document made, (standsAt_start made).lanes_eq⟩

theorem Serves.delivers (serves : replay.Serves document) :
    ∃ after, Delivers replay document.lanes after ∧ after.Serves document := by
  obtain ⟨after, delivers, sound, same⟩ := (isTape document).delivers serves.sound
  rw [serves.lanes] at delivers same
  exact ⟨after, delivers, sound, same⟩

end Replay

/-- The file at this path is a trace document that can be opened. -/
def Files.Provides (files : Files) (path : String) (document : Document) : Prop :=
  Document.load (files path) = .ok document ∧ document.Opens

theorem Files.Provides.opens {files : Files} {path : String} {document : Document}
    (provides : files.Provides path document) :
    ∃ replay, Replay.load (files path) = .ok (.ok replay) ∧ replay.Serves document := by
  obtain ⟨replay, made⟩ := Replay.ofDocument_eq_ok_iff.mpr provides.2
  refine ⟨replay, ?_, Replay.serves_of_document made⟩
  simp only [Replay.load, provides.1, made]

theorem SessionStep.perform_of_ok {S H K α : Type} {step : SessionStep S H K Unit α}
    {session : Session S H K} {value : α} {after : Session S H K × Unit}
    (ran : runFrom step (session, ()) = (.ok value, after)) :
    step.perform session = .ok (value, after.1) := by
  rw [runFrom] at ran
  rw [perform, ran]

namespace TraceSession

variable {files : Files} {config : Option String} {settings : Settings}

/-- The command runs with these settings: those of the file it is given, or else the preset. -/
def Configures (files : Files) (settings : Settings) : Option String → Prop
  | none => settings = {}
  | some path => Settings.load path (files path) = .ok settings

theorem Configures.valid (configures : Configures files settings config) :
    settings.validate = .ok () := by
  cases config with
  | none =>
      rw [Configures] at configures
      rw [configures]
      decide
  | some path =>
      rw [Configures, Settings.load] at configures
      split at configures
      · cases configures
      · split at configures
        · cases configures
        · split at configures
          · cases configures
          · obtain ⟨_, valid, rfl⟩ := map_eq_ok.mp configures
            exact valid

theorem Configures.within (configures : Configures files settings config) :
    0 < settings.maxStreams.toNat ∧ settings.maxStreams.toNat ≤ maxSlots := by
  have valid := configures.valid
  unfold Settings.validate at valid
  split at valid
  · cases valid
  · split at valid
    · cases valid
    · rename_i allowed
      rw [Bool.or_eq_true, decide_eq_true_eq, decide_eq_true_eq, not_or] at allowed
      refine ⟨Nat.pos_of_ne_zero fun zero => allowed.1 ?_, Nat.le_of_not_lt allowed.2⟩
      exact UInt64.toNat_inj.mp zero

/-- A session of these settings in which the streams were opened one after the other. -/
structure Holds (session : TraceSession) (settings : Settings) (streams : List (Stream Replay)) :
    Prop where
  configured : session.settings = settings
  unhooked : session.hooks = {}
  filled : session.streams = .filled settings.maxStreams.toNat streams

theorem start_of_configures (configures : Configures files settings config) :
    ∃ session, start files config = .ok session ∧ Holds session settings [] := by
  have started : start files config = Session.create settings := by
    cases config with
    | none =>
        rw [Configures] at configures
        rw [start, configures]
    | some path =>
        rw [Configures] at configures
        rw [start]
        simp only [configures]
  refine ⟨{ settings, streams := { limit := settings.maxStreams.toNat } }, ?_, rfl, rfl, rfl⟩
  rw [started, Session.create, configures.valid]

section

variable {session : TraceSession} {streams : List (Stream Replay)} {stream : Stream Replay}
  {document : Document} {path : String}

theorem Holds.found (holds : Holds session settings streams) {place : Nat}
    (named : place < maxSlots) (found : streams[place]? = some stream) :
    session.stream (.nth place) = .ok stream := by
  rw [Session.stream, holds.filled, Registry.get_eq_ok, Registry.find?_filled named, found]

theorem Holds.found_last (holds : Holds session settings (streams ++ [stream]))
    (named : streams.length < maxSlots) : session.stream (.nth streams.length) = .ok stream :=
  holds.found named List.getElem?_concat_length

theorem Holds.loader_eq (holds : Holds session settings streams) (stream : Stream Replay) :
    session.loader stream =
      { stream := stream.handle, filters := stream.filters, clock := stream.clock
        mask := settings.filterMask } := by
  rw [Session.loader, holds.configured, holds.unhooked]

theorem Holds.modifyStream (holds : Holds session settings (streams ++ [stream]))
    (named : streams.length < maxSlots) (change : Stream Replay → Stream Replay) :
    Holds (session.modifyStream (.nth streams.length) change) settings
      (streams ++ [change stream]) where
  configured := holds.configured
  unhooked := holds.unhooked
  filled := by rw [Session.modifyStream, holds.filled, Registry.modify_filled named]

theorem Holds.openFile (holds : Holds session settings streams)
    (provides : files.Provides path document)
    (room : streams.length < settings.maxStreams.toNat) (named : streams.length < maxSlots) :
    ∃ replay after, replay.Serves document ∧
      session.openFile files path = .ok (.nth streams.length, after) ∧
      Holds after settings (streams ++ [.ofSource (.nth streams.length) path replay]) := by
  obtain ⟨replay, loaded, serves⟩ := provides.opens
  let opened := streams ++ [.ofSource (.nth streams.length) path replay]
  refine ⟨replay, { session with streams := .filled settings.maxStreams.toNat opened }, serves, ?_,
    holds.configured, holds.unhooked, rfl⟩
  simp only [Session.openFile, loaded]
  rw [Session.openTrace, Session.addSource, holds.filled, Registry.insert_filled room named]
  rfl

theorem Holds.addFilters (holds : Holds session settings (streams ++ [stream]))
    (named : streams.length < maxSlots) (rules : List IdRule) :
    ∃ after, session.addFilters (.nth streams.length) rules = .ok after ∧
      Holds after settings
        (streams ++ [{ stream with filters := rules.foldl Filters.add stream.filters }]) := by
  induction rules generalizing session stream with
  | nil => exact ⟨session, rfl, holds⟩
  | cons rule rules ih =>
      obtain ⟨after, added, last⟩ := ih (holds.modifyStream named fun stream =>
        { stream with filters := stream.filters.add rule })
      refine ⟨after, ?_, last⟩
      rw [Session.addFilters, List.foldlM_cons, bind_eq_ok]
      refine ⟨_, ?_, added⟩
      rw [Session.addFilter, Session.updateStream, holds.found_last named]
      rfl

theorem Holds.load (holds : Holds session settings (streams ++ [stream]))
    (named : streams.length < maxSlots) (unspoilt : stream.poisoned = false)
    (serves : stream.source.Serves document) (unjudged : stream.filters.content = none) :
    ∃ replay tasks after, replay.Serves document ∧
      runFrom (Session.load (.nth streams.length)) (session, ()) =
        (.ok (mergeLanes (document.lanes.map (session.loader stream).listing)), after) ∧
      Holds after.1 settings (streams ++ [{ stream with source := replay, tasks }]) := by
  obtain ⟨replay, delivers, still⟩ := serves.delivers
  have plain : (session.loader stream).IsPlain := by
    rw [holds.loader_eq]
    exact ⟨rfl, unjudged⟩
  obtain ⟨tasks, after, ran, left, sameSettings, sameHooks⟩ :=
    Session.load_of_plain (holds.found_last named) unspoilt delivers plain ()
  refine ⟨replay, stream.tasks.union tasks, after, still, ran, ?_, ?_, ?_⟩
  · exact sameSettings.trans holds.configured
  · exact sameHooks.trans holds.unhooked
  · rw [left, holds.filled, Registry.modify_filled named]

theorem Holds.append (holds : Holds session settings (streams ++ [stream]))
    (named : streams.length < maxSlots) (unspoilt : stream.poisoned = false)
    (serves : stream.source.Serves document) (unjudged : stream.filters.content = none)
    (prior : List Entry) :
    ∃ replay tasks after, replay.Serves document ∧
      runFrom (Session.append prior (.nth streams.length) none) (session, ()) =
        (.ok (mergePair prior (mergeLanes
          (document.lanes.map (session.loader stream).listing))), after) ∧
      Holds after.1 settings (streams ++ [{ stream with source := replay, tasks }]) := by
  obtain ⟨replay, tasks, after, still, loaded, last⟩ := holds.load named unspoilt serves unjudged
  exact ⟨replay, tasks, _, still, Session.append_of_load loaded, last.configured, last.unhooked,
    last.filled⟩

theorem Holds.setClock (holds : Holds session settings (streams ++ [stream]))
    (named : streams.length < maxSlots) (clock : Clock) :
    ∃ after,
      runFrom (SessionStep.ofChange fun session : TraceSession =>
        session.setClock (.nth streams.length) clock) (session, ()) = (.ok (), after, ()) ∧
      Holds after settings (streams ++ [{ stream with clock := some clock }]) := by
  have timed := holds.modifyStream named fun stream => { stream with clock := some clock }
  refine ⟨session.modifyStream _ _, ?_, timed⟩
  simp only [SessionStep.ofChange, runFrom_mk, Session.setClock, Session.updateStream,
    holds.found_last named]
  rfl

theorem Holds.append_with_clock (holds : Holds session settings (streams ++ [stream]))
    (named : streams.length < maxSlots) (unspoilt : stream.poisoned = false)
    (serves : stream.source.Serves document) (unjudged : stream.filters.content = none)
    (untimed : stream.clock = none) (prior : List Entry) (clock : Option Clock) :
    ∃ replay tasks after, replay.Serves document ∧
      runFrom (Session.append prior (.nth streams.length) clock) (session, ()) =
        (.ok (mergePair prior (mergeLanes
          (document.lanes.map (session.loader { stream with clock }).listing))), after) ∧
      Holds after.1 settings (streams ++ [{ stream with source := replay, tasks, clock }]) := by
  cases clock with
  | none =>
      obtain ⟨replay, tasks, after, still, ran, last⟩ := holds.append named unspoilt serves unjudged
        prior
      refine ⟨replay, tasks, after, still, ?_, ?_⟩
      · rw [ran, ← untimed]
      · rw [← untimed]
        exact last
  | some clock =>
      obtain ⟨timed, set, ready⟩ := holds.setClock named clock
      obtain ⟨replay, tasks, after, still, ran, last⟩ := ready.append named unspoilt serves unjudged
        prior
      refine ⟨replay, tasks, after, still, (runFrom_bind_ok set).trans ?_, last⟩
      rw [ready.loader_eq] at ran
      rw [holds.loader_eq]
      exact ran

end

end TraceSession

end KernelTrace
