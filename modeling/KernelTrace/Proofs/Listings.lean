import KernelTrace.Proofs.Loads

namespace KernelTrace

namespace Loader

variable {H σ : Type} [Plugin H σ] {loader : Loader H} {record : Record} {records : List Record}
  {lanes : List (List Record)}

/-- No plugin sees the records, and no content filter judges them. -/
structure IsPlain (loader : Loader H) : Prop where
  hooks : loader.hooks.hooks = []
  content : loader.filters.content = none

/-- The entry that such a loader makes of a record: its draft, as the id filters let it be seen. -/
def plain (loader : Loader H) (record : Record) : Entry :=
  { loader.draft record with
    visible := loader.filters.visibility (loader.draft record) loader.mask }

def listing (loader : Loader H) (records : List Record) : List Entry :=
  loader.withMarkers none (records.map fun record => (record, loader.plain record))

theorem IsPlain.calm (plain : loader.IsPlain) (records : List Record) : loader.IsCalm records := by
  constructor
  · rw [plain.hooks]
    exact fun hook member => nomatch member
  · intro record _
    exact ⟨true, by rw [Filters.admits, plain.content]⟩

theorem IsPlain.entry_eq (plain : loader.IsPlain) (record : Record) (host : σ) :
    runFrom (loader.entry record) host = (.ok (loader.plain record), host) := by
  have dispatched : runFrom (loader.hooks.dispatch record (loader.draft record)) host =
      (.ok ([], loader.draft record), host) := by
    rw [HookTable.dispatch, plain.hooks]
    rfl
  have admits : loader.filters.admits record = .ok true := by rw [Filters.admits, plain.content]
  have finished : loader.finish [] (loader.draft record) true = loader.plain record := rfl
  rw [entry_of_dispatch dispatched admits, finished]

theorem IsPlain.build_eq (plain : loader.IsPlain) (records : List Record) (host : σ) :
    loader.build records host =
      (⟨records.map fun record => (record, loader.plain record), none⟩, host) := by
  induction records with
  | nil => rfl
  | cons record records ih =>
      have made := plain.entry_eq record host
      rw [runFrom] at made
      simp only [build, made, ih, List.map_cons]

theorem IsPlain.laneEntries_eq (plain : loader.IsPlain) (lanes : List (List Record)) (host : σ) :
    loader.laneEntries lanes host = lanes.map loader.listing := by
  have built : loader.buildLanes lanes host =
      (⟨lanes.map fun lane => lane.map fun record => (record, loader.plain record), none⟩,
        host) := by
    induction lanes with
    | nil => rfl
    | cons lane lanes ih => simp only [buildLanes, plain.build_eq, ih, List.map_cons]
  rw [laneEntries, built, List.map_map]
  rfl

theorem IsPlain.listing_ordered (plain : loader.IsPlain) (host : σ)
    (leads : ∀ record ∈ records, record.missed ≠ 0 →
      loader.time (backBy lossLead record.ts) ≤ loader.time record.ts)
    (rising : records.Pairwise fun a b => loader.time a.ts ≤ loader.time b.ts) :
    isOrdered (loader.listing records) := by
  have firsts :
      (records.map fun record => (record, loader.plain record)).map Prod.fst = records := by
    rw [List.map_map]
    exact List.map_id records
  have makes : ∀ pair ∈ records.map (fun record => (record, loader.plain record)),
      loader.Makes pair.1 pair.2 := by
    intro pair member
    obtain ⟨record, _, rfl⟩ := List.mem_map.mp member
    exact ⟨host, host, plain.entry_eq record host⟩
  have keepsTime : ∀ hook ∈ loader.hooks.hooks, Plugin.Keeps hook.plugin Entry.ts := by
    rw [plain.hooks]
    exact fun hook member => nomatch member
  rw [← firsts] at leads rising
  have laysOut : loader.LaysOut none _ (loader.listing records) :=
    withMarkers_lays_out makes keepsTime leads rising fun time none => nomatch none
  exact (laysOut.ordered rising fun time none => nomatch none).1

end Loader

namespace Session

variable {S H K σ : Type} [RecordSource S] [Plugin H σ] {session : Session S H K} {handle : Handle}
  {stream : Stream S} {lanes : List (List Record)} {finish : S}

theorem load_of_plain (found : session.stream handle = .ok stream)
    (unspoilt : stream.poisoned = false) (delivers : Delivers stream.source lanes finish)
    (plain : (session.loader stream).IsPlain) (host : σ) :
    ∃ tasks after,
      runFrom (load handle) (session, host) =
        (.ok (mergeLanes (lanes.map (session.loader stream).listing)), after) ∧
      after.1.streams = session.streams.modify handle
        (fun stream => { stream with source := finish, tasks := stream.tasks.union tasks }) ∧
      after.1.settings = session.settings ∧ after.1.hooks = session.hooks := by
  have here : session.startProgress.stream handle = .ok stream := found
  obtain ⟨loaded, outcome⟩ :
      ∃ loaded, ((session.loader stream).run stream.source host).1.outcome = .ok loaded :=
    Loader.run_calm delivers (plain.calm lanes.flatten)
  have entries := (Loader.run_eq_ok delivers outcome).2
  have read : ((session.startProgress.loader stream).run stream.source host).2.1 = finish :=
    congrArg Prod.snd (readAll_eq_iff.mpr delivers)
  rw [load_eq, readStream_of_ok here unspoilt outcome, entries, plain.laneEntries_eq, read]
  refine ⟨loaded.tasks, _, rfl, ?_, ?_, ?_⟩
  · exact settle_ok session.startProgress handle finish outcome
  · exact settle_settings session.startProgress handle finish _
  · exact settle_hooks session.startProgress handle finish _

end Session

end KernelTrace
