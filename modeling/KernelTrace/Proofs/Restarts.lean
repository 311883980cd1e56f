import KernelTrace.Proofs.Tapes

namespace KernelTrace

variable {S : Type} [RecordSource S] {s t u v : S}

inductive Touched (s : S) : S → Prop
  | unread : Touched s s
  | restarted {t : S} {cpu : Nat} : Touched s t → cpu < RecordSource.cpuCount s →
      Touched s (RecordSource.restart t cpu).2
  | advanced {t : S} {cpu : Nat} : Touched s t → cpu < RecordSource.cpuCount s →
      Touched s (RecordSource.next t cpu).2
  | reread {t : S} {offset : UInt64} : Touched s t → Touched s (RecordSource.recordAt t offset).2

/-- The same CPUs, and from its oldest record on each of them reads the same: records, end and
fault. -/
structure ReadsAlike (s t : S) : Prop where
  cpuCount : RecordSource.cpuCount t = RecordSource.cpuCount s
  lanes : ∀ cpu < RecordSource.cpuCount s, (readLane t cpu).1 = (readLane s cpu).1

theorem ReadsAlike.refl (s : S) : ReadsAlike s s := ⟨rfl, fun _ _ => rfl⟩

theorem ReadsAlike.symm (alike : ReadsAlike s t) : ReadsAlike t s where
  cpuCount := alike.cpuCount.symm
  lanes cpu bound := (alike.lanes cpu (alike.cpuCount ▸ bound)).symm

theorem ReadsAlike.trans (first : ReadsAlike s t) (second : ReadsAlike t u) : ReadsAlike s u where
  cpuCount := second.cpuCount.trans first.cpuCount
  lanes cpu bound :=
    (second.lanes cpu (first.cpuCount.symm ▸ bound)).trans (first.lanes cpu bound)

/-- Whatever has been read before, each CPU starts over and reads as it does now. -/
def Restarts (s : S) : Prop := ∀ t, Touched s t → ReadsAlike s t

theorem Touched.trans (count : RecordSource.cpuCount t = RecordSource.cpuCount s)
    (first : Touched s t) (second : Touched t u) : Touched s u := by
  induction second with
  | unread => exact first
  | restarted _ bound ih => exact ih.restarted (count ▸ bound)
  | advanced _ bound ih => exact ih.advanced (count ▸ bound)
  | reread _ ih => exact ih.reread

theorem Restarts.touched (restarts : Restarts s) (touched : Touched s t) : Restarts t := by
  intro u again
  have first := restarts t touched
  exact first.symm.trans (restarts u (touched.trans first.cpuCount again))

theorem touched_readRest {cpu : Nat} (bound : cpu < RecordSource.cpuCount s)
    (touched : Touched s t) : Touched s (readRest t cpu).2 := by
  fun_induction readRest t cpu with
  | case1 t fault after read =>
      have there := touched.advanced bound
      rwa [read] at there
  | case2 t after read =>
      have there := touched.advanced bound
      rwa [read] at there
  | case3 t record middle read reading last rest ih =>
      have there := touched.advanced bound
      rw [read] at there
      have onwards := ih there
      rwa [rest] at onwards

theorem touched_readLane {cpu : Nat} (bound : cpu < RecordSource.cpuCount s)
    (touched : Touched s t) : Touched s (readLane t cpu).2 := by
  have there := touched.restarted bound
  unfold readLane
  split <;> rename_i read <;> rw [read] at there
  · exact there
  · exact there
  · exact touched_readRest bound there

theorem touched_readLanes {cpu count : Nat} (bound : cpu + count ≤ RecordSource.cpuCount s)
    (touched : Touched s t) : Touched s (readLanes t cpu count).2 := by
  induction count generalizing t cpu with
  | zero => exact touched
  | succ count ih =>
      have there := touched_readLane (by omega : cpu < RecordSource.cpuCount s) touched
      simp only [readLanes]
      split
      · exact there
      · exact ih (by omega) there

/-- The CPUs are read one after the other, so each but the first from a source already read. -/
theorem readLanes_alike (restarts : Restarts s) (restartsToo : Restarts u)
    (alike : ReadsAlike s u) {cpu count : Nat} (bound : cpu + count ≤ RecordSource.cpuCount s)
    (touched : Touched s t) (touchedToo : Touched u v) :
    (readLanes v cpu count).1 = (readLanes t cpu count).1 := by
  induction count generalizing t v cpu with
  | zero => rfl
  | succ count ih =>
      have here : cpu < RecordSource.cpuCount s := by omega
      have there : cpu < RecordSource.cpuCount u := alike.cpuCount.symm ▸ here
      have lane : (readLane v cpu).1 = (readLane t cpu).1 :=
        calc (readLane v cpu).1
          _ = (readLane u cpu).1 := (restartsToo v touchedToo).lanes cpu there
          _ = (readLane s cpu).1 := alike.lanes cpu here
          _ = (readLane t cpu).1 := ((restarts t touched).lanes cpu here).symm
      have rest := ih (by omega : cpu + 1 + count ≤ RecordSource.cpuCount s)
        (touched_readLane here touched) (touched_readLane there touchedToo)
      simp only [readLanes, lane, rest]
      cases (readLane t cpu).1.fault <;> rfl

theorem readAll_alike (restarts : Restarts s) (restartsToo : Restarts u)
    (alike : ReadsAlike s u) : (readAll u).1 = (readAll s).1 := by
  rw [readAll, readAll, alike.cpuCount]
  exact readLanes_alike restarts restartsToo alike (by omega) .unread .unread

theorem Restarts.touched_readAll (restarts : Restarts s) (touched : Touched s t) :
    Touched s (readAll t).2 := by
  rw [readAll, (restarts t touched).cpuCount]
  exact touched_readLanes (by omega) touched

namespace IsTape

variable {lanes : S → List (Lane Record)} {sound : S → Prop}

theorem getElem?_lanes (tape : IsTape lanes sound) (good : sound s) {cpu : Nat}
    (bound : cpu < RecordSource.cpuCount s) : ∃ lane, (lanes s)[cpu]? = some lane := by
  rw [tape.cpuCount s good] at bound
  exact ⟨_, List.getElem?_eq_getElem bound⟩

theorem cpuCount_of_same (tape : IsTape lanes sound) (good : sound s) (kept : sound t)
    (same : (lanes t).map Lane.all = (lanes s).map Lane.all) :
    RecordSource.cpuCount t = RecordSource.cpuCount s := by
  simpa [tape.cpuCount t kept, tape.cpuCount s good] using congrArg List.length same

theorem touched (tape : IsTape lanes sound) (good : sound s) (touched : Touched s t) :
    sound t ∧ (lanes t).map Lane.all = (lanes s).map Lane.all := by
  induction touched with
  | unread => exact ⟨good, rfl⟩
  | @restarted t cpu _ bound ih =>
      obtain ⟨kept, same⟩ := ih
      obtain ⟨lane, found⟩ :=
        tape.getElem?_lanes kept ((tape.cpuCount_of_same good kept same).symm ▸ bound)
      obtain ⟨after, read, last, moved⟩ := tape.restart t cpu lane kept found
      rw [read]
      exact ⟨last, by rw [moved, map_all_set found (rfl : lane.first.2.all = lane.all), same]⟩
  | @advanced t cpu _ bound ih =>
      obtain ⟨kept, same⟩ := ih
      obtain ⟨lane, found⟩ :=
        tape.getElem?_lanes kept ((tape.cpuCount_of_same good kept same).symm ▸ bound)
      obtain ⟨after, read, last, moved⟩ := tape.next t cpu lane kept found
      rw [read]
      exact ⟨last, by rw [moved, map_all_set found (rfl : lane.next.2.all = lane.all), same]⟩
  | @reread t offset _ ih =>
      obtain ⟨kept, same⟩ := tape.recordAt t offset ih.1
      exact ⟨kept, by rw [same, ih.2]⟩

theorem readLane_eq (tape : IsTape lanes sound) (good : sound s) {cpu : Nat}
    (bound : cpu < RecordSource.cpuCount s) :
    ∃ lane, ((lanes s).map Lane.all)[cpu]? = some lane ∧ (readLane s cpu).1 = ⟨lane, none⟩ := by
  obtain ⟨lane, found⟩ := tape.getElem?_lanes good bound
  obtain ⟨after, gives, _⟩ := tape.gives_lane good found
  exact ⟨lane.all, by rw [List.getElem?_map, found]; rfl, by rw [readLane_eq_iff.mpr gives]⟩

theorem restarts (tape : IsTape lanes sound) (good : sound s) : Restarts s := by
  intro t touched
  obtain ⟨kept, same⟩ := tape.touched good touched
  have count := tape.cpuCount_of_same good kept same
  refine ⟨count, fun cpu bound => ?_⟩
  obtain ⟨lane, here, read⟩ := tape.readLane_eq good bound
  obtain ⟨other, there, reread⟩ := tape.readLane_eq kept (count.symm ▸ bound)
  rw [same, here] at there
  cases there
  rw [read, reread]

end IsTape

end KernelTrace
