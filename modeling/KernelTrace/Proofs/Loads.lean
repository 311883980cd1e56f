import KernelTrace.Proofs.Lanes
import KernelTrace.Proofs.Sound

namespace KernelTrace

theorem Stream.usable_eq_ok {S : Type} {stream : Stream S} {source : S} :
    stream.usable = .ok source ↔ stream.poisoned = false ∧ stream.source = source := by
  unfold Stream.usable
  cases stream.poisoned <;> simp

namespace Session

variable {S H K σ : Type} [RecordSource S] [Plugin H σ] {session : Session S H K}
  {handle : Handle} {host : σ} {after : Session S H K × σ} {entries : List Entry}

theorem readStream_eq_ok
    (ran : runFrom (readStream handle) (session, host) = (.ok entries, after)) :
    ∃ stream loaded, session.stream handle = .ok stream ∧ stream.poisoned = false ∧
      ((session.loader stream).run stream.source host).1.outcome = .ok loaded ∧
      entries = loaded.entries ∧
      after = (session.settle handle ((session.loader stream).run stream.source host).2.1
          ((session.loader stream).run stream.source host).1,
        ((session.loader stream).run stream.source host).2.2) := by
  rw [readStream, runFrom_mk] at ran
  dsimp only at ran
  split at ran
  · cases ran
  · rename_i stream found
    split at ran
    · cases ran
    · rename_i source usable
      obtain ⟨sound, rfl⟩ := Stream.usable_eq_ok.mp usable
      obtain ⟨outcome, settled⟩ := Prod.mk.inj ran
      obtain ⟨loaded, made, same⟩ := map_eq_ok.mp outcome
      exact ⟨stream, loaded, found, sound, made, same.symm, settled.symm⟩

theorem readStream_of_ok {stream : Stream S} {loaded : LoadResult}
    (found : session.stream handle = .ok stream) (unspoilt : stream.poisoned = false)
    (outcome : ((session.loader stream).run stream.source host).1.outcome = .ok loaded) :
    runFrom (readStream handle) (session, host) =
      (.ok loaded.entries,
        session.settle handle ((session.loader stream).run stream.source host).2.1
          ((session.loader stream).run stream.source host).1,
        ((session.loader stream).run stream.source host).2.2) := by
  have usable := Stream.usable_eq_ok.mpr ⟨unspoilt, rfl⟩
  simp only [readStream, runFrom_mk, found, usable, outcome]
  rfl

theorem load_eq (handle : Handle) (session : Session S H K) (host : σ) :
    runFrom (load handle) (session, host) =
      runFrom (readStream handle) (session.startProgress, host) :=
  runFrom_bind_ok rfl

omit [RecordSource S] in
theorem usableSource_of_closed {fault : Fault} (missing : session.stream handle = .error fault) :
    session.usableSource handle = .error fault := by
  rw [usableSource, missing]
  rfl

theorem readStream_of_unusable {fault : Fault}
    (unusable : session.usableSource handle = .error fault) (host : σ) :
    runFrom (readStream handle) (session, host) = (.error (.fault fault), session, host) := by
  rw [usableSource] at unusable
  rw [readStream, runFrom_mk]
  dsimp only
  cases found : session.stream handle with
  | error cause =>
      rw [found] at unusable
      cases unusable
      rfl
  | ok stream =>
      rw [found] at unusable
      have refused : stream.usable = .error fault := unusable
      simp only [refused]

theorem load_of_unusable {fault : Fault} (unusable : session.usableSource handle = .error fault)
    (host : σ) :
    runFrom (load handle) (session, host) =
      (.error (.fault fault), session.startProgress, host) := by
  have still : session.startProgress.usableSource handle = .error fault := unusable
  rw [load_eq, readStream_of_unusable still]

theorem load_of_delivers {stream : Stream S} {lanes : List (List Record)} {finish : S}
    (found : session.stream handle = .ok stream) (unspoilt : stream.poisoned = false)
    (delivers : Delivers stream.source lanes finish)
    (calm : (session.loader stream).IsCalm lanes.flatten) (host : σ) :
    (runFrom (load handle) (session, host)).1 =
      .ok (mergeLanes ((session.loader stream).laneEntries lanes host)) := by
  have here : session.startProgress.stream handle = .ok stream := found
  obtain ⟨loaded, outcome⟩ := Loader.run_calm delivers calm
  rw [load_eq, readStream_of_ok here unspoilt outcome, (Loader.run_eq_ok delivers outcome).2]

theorem load_of_script {session : Session Script H K} {stream : Stream Script}
    {records : List Record} (found : session.stream handle = .ok stream)
    (unspoilt : stream.poisoned = false) (script : stream.source = .ofLists [records] none none)
    (calm : (session.loader stream).IsCalm records) (host : σ) :
    (runFrom (load handle) (session, host)).1 =
      .ok ((session.loader stream).withMarkers none
        ((session.loader stream).build records host).1.made) := by
  obtain ⟨_, delivers⟩ := Script.ofLists_delivers [records]
  rw [← script] at delivers
  have calm : (session.loader stream).IsCalm [records].flatten := by
    rwa [List.flatten_singleton]
  rw [load_of_delivers found unspoilt delivers calm, Loader.laneEntries_singleton,
    mergeLanes_singleton]

theorem streams_of_readStream (sound : session.Sound)
    (keepsStream : ∀ hook ∈ session.hooks.hooks, Plugin.Keeps hook.plugin Entry.stream)
    (ran : runFrom (readStream handle) (session, host) = (.ok entries, after)) :
    ∀ entry ∈ entries, entry.stream = handle := by
  obtain ⟨stream, loaded, found, _, outcome, rfl, _⟩ := readStream_eq_ok ran
  intro entry member
  rw [Loader.stream_of_run keepsStream outcome member]
  exact sound.coherent.handle_of_find? (Registry.get_eq_ok.mp found)

theorem collections_of_readStream
    (ran : runFrom (readStream handle) (session, host) = (.ok entries, after)) :
    after.1.collections = session.collections.resetStream handle := by
  obtain ⟨stream, loaded, _, _, outcome, _, rfl⟩ := readStream_eq_ok ran
  simp only [settle, outcome]
  rfl

theorem streams_of_load (sound : session.Sound)
    (keepsStream : ∀ hook ∈ session.hooks.hooks, Plugin.Keeps hook.plugin Entry.stream)
    (ran : runFrom (load handle) (session, host) = (.ok entries, after)) :
    ∀ entry ∈ entries, entry.stream = handle := by
  rw [load_eq] at ran
  exact streams_of_readStream sound.startProgress keepsStream ran

theorem collections_of_load (ran : runFrom (load handle) (session, host) = (.ok entries, after)) :
    after.1.collections = session.collections.resetStream handle := by
  rw [load_eq] at ran
  have reset := collections_of_readStream ran
  exact reset

theorem append_eq_ok {prior merged : List Entry} {clock : Option Clock}
    (ran : runFrom (append prior handle clock) (session, host) = (.ok merged, after)) :
    ∃ ready entries loaded,
      (clock = none ∧ ready = session ∨
        ∃ set, clock = some set ∧ session.setClock handle set = .ok ready) ∧
      runFrom (load handle) (ready, host) = (.ok entries, loaded) ∧
      merged = mergePair prior entries ∧
      after = ({ loaded.1 with
        collections := loaded.1.collections.resetStreams (prior.map (·.stream)).eraseDups },
        loaded.2) := by
  cases clock with
  | none =>
      obtain ⟨entries, loaded, read, rest⟩ := runFrom_bind_eq_ok ran
      cases rest
      exact ⟨session, entries, loaded, .inl ⟨rfl, rfl⟩, read, rfl, rfl⟩
  | some clock =>
      obtain ⟨_, _, set, continued⟩ := runFrom_bind_eq_ok ran
      obtain ⟨ready, clocked, rfl⟩ := SessionStep.ofChange_eq_ok set
      obtain ⟨entries, loaded, read, rest⟩ := runFrom_bind_eq_ok continued
      cases rest
      exact ⟨ready, entries, loaded, .inr ⟨clock, rfl, clocked⟩, read, rfl, rfl⟩

theorem append_of_load {prior : List Entry}
    (loaded : runFrom (load handle) (session, host) = (.ok entries, after)) :
    runFrom (append prior handle none) (session, host) =
      (.ok (mergePair prior entries),
        { after.1 with
          collections := after.1.collections.resetStreams (prior.map (·.stream)).eraseDups },
        after.2) := by
  change runFrom (load handle >>= _) (session, host) = _
  rw [runFrom_bind_ok loaded]
  rfl

def mergeNext (merged : List Entry) (handle : Handle) : SessionStep S H K σ (List Entry) := do
  let entries ← readStream handle
  pure (mergePair merged entries)

theorem loadAll_eq_ok {merged : List Entry}
    (ran : runFrom loadAll (session, host) = (.ok merged, after)) :
    ∃ loaded, runFrom (session.handles.foldlM mergeNext []) (session.startProgress, host) =
        (.ok merged, loaded) ∧
      after = ({ loaded.1 with collections := loaded.1.collections.resetAll }, loaded.2) := by
  obtain ⟨_, started, start, rest⟩ := runFrom_bind_eq_ok ran
  cases start
  obtain ⟨_, _, got, rest⟩ := runFrom_bind_eq_ok rest
  cases got
  obtain ⟨entries, loaded, folded, rest⟩ := runFrom_bind_eq_ok rest
  cases rest
  exact ⟨loaded, folded, rfl⟩

theorem loadAll_of_fold {merged : List Entry}
    (folded : runFrom (session.handles.foldlM mergeNext []) (session.startProgress, host) =
      (.ok merged, after)) :
    runFrom loadAll (session, host) =
      (.ok merged, { after.1 with collections := after.1.collections.resetAll }, after.2) := by
  change runFrom (session.handles.foldlM mergeNext [] >>= _) (session.startProgress, host) = _
  rw [runFrom_bind_ok folded]
  rfl

end Session

end KernelTrace
