import KernelTrace.Proofs.Delivery
import KernelTrace.Trace.Replay
import KernelTrace.Trace.Script

namespace KernelTrace

variable {S : Type} [RecordSource S] {lanes : S → List (Lane Record)} {sound : S → Prop}

/-- While it is sound, the source reads from these lanes, and nothing but its places moves. -/
structure IsTape (lanes : S → List (Lane Record)) (sound : S → Prop) : Prop where
  cpuCount : ∀ s, sound s → RecordSource.cpuCount s = (lanes s).length
  restart : ∀ s cpu lane, sound s → (lanes s)[cpu]? = some lane →
    ∃ after, RecordSource.restart s cpu = (.ok lane.first.1, after) ∧ sound after ∧
      lanes after = (lanes s).set cpu lane.first.2
  next : ∀ s cpu lane, sound s → (lanes s)[cpu]? = some lane →
    ∃ after, RecordSource.next s cpu = (.ok lane.next.1, after) ∧ sound after ∧
      lanes after = (lanes s).set cpu lane.next.2
  recordAt : ∀ s offset, sound s → sound (RecordSource.recordAt s offset).2 ∧
    lanes (RecordSource.recordAt s offset).2 = lanes s

namespace IsTape

variable {s : S} {cpu : Nat}

theorem gives_rest (tape : IsTape lanes sound) {all rest : List Record} (good : sound s)
    (found : (lanes s)[cpu]? = some ⟨all, rest⟩) :
    ∃ after, GivesRest s cpu rest after ∧ sound after ∧
      lanes after = (lanes s).set cpu ⟨all, []⟩ := by
  have bound := (List.getElem?_eq_some_iff.mp found).1
  obtain ⟨middle, read, kept, moved⟩ := tape.next s cpu _ good found
  induction rest generalizing s middle with
  | nil => exact ⟨middle, .ended read, kept, moved⟩
  | cons record rest ih =>
      have here : (lanes middle)[cpu]? = some ⟨all, rest⟩ := by
        rw [moved]
        exact List.getElem?_set_self bound
      have still := (List.getElem?_eq_some_iff.mp here).1
      obtain ⟨further, readOn, keptOn, movedOn⟩ := tape.next middle cpu _ kept here
      obtain ⟨after, gives, last, ended⟩ := ih kept here still further readOn keptOn movedOn
      refine ⟨after, .more read gives, last, ?_⟩
      rw [ended, moved, List.set_set]

theorem gives_lane (tape : IsTape lanes sound) {lane : Lane Record} (good : sound s)
    (found : (lanes s)[cpu]? = some lane) :
    ∃ after, GivesLane s cpu lane.all after ∧ sound after ∧
      lanes after = (lanes s).set cpu ⟨lane.all, []⟩ := by
  have bound := (List.getElem?_eq_some_iff.mp found).1
  obtain ⟨middle, read, kept, moved⟩ := tape.restart s cpu lane good found
  obtain ⟨all, rest⟩ := lane
  cases all with
  | nil => exact ⟨middle, .empty read, kept, moved⟩
  | cons record records =>
      have here : (lanes middle)[cpu]? = some ⟨record :: records, records⟩ := by
        rw [moved]
        exact List.getElem?_set_self bound
      obtain ⟨after, gives, last, ended⟩ := tape.gives_rest kept here
      refine ⟨after, .more read gives, last, ?_⟩
      rw [ended, moved, List.set_set]

theorem map_all_set {places : List (Lane Record)} {cpu : Nat} {lane moved : Lane Record}
    (found : places[cpu]? = some lane) (same : moved.all = lane.all) :
    (places.set cpu moved).map Lane.all = places.map Lane.all := by
  obtain ⟨bound, rfl⟩ := List.getElem?_eq_some_iff.mp found
  have bound : cpu < (places.map Lane.all).length := by simpa using bound
  rw [List.map_set, same, ← List.getElem_map Lane.all (h := bound), List.set_getElem_self]

theorem gives_lanes (tape : IsTape lanes sound) {count : Nat} (good : sound s)
    (rest : cpu + count = (lanes s).length) :
    ∃ after, GivesLanes s cpu (((lanes s).map Lane.all).drop cpu) after ∧ sound after ∧
      (lanes after).map Lane.all = (lanes s).map Lane.all := by
  induction count generalizing s cpu with
  | zero =>
      rw [List.drop_eq_nil_of_le (by simp; omega)]
      exact ⟨s, .nil, good, rfl⟩
  | succ count ih =>
      have bound : cpu < (lanes s).length := by omega
      have found := List.getElem?_eq_getElem bound
      obtain ⟨middle, first, kept, moved⟩ := tape.gives_lane good found
      have same : (lanes middle).map Lane.all = (lanes s).map Lane.all := by
        rw [moved]
        exact map_all_set found rfl
      have still : cpu + 1 + count = (lanes middle).length := by
        rw [moved, List.length_set]
        omega
      obtain ⟨after, others, last, unchanged⟩ := ih kept still
      refine ⟨after, ?_, last, unchanged.trans same⟩
      rw [List.drop_eq_getElem_cons (by simpa using bound), List.getElem_map]
      rw [same] at others
      exact .cons first others

theorem delivers (tape : IsTape lanes sound) (good : sound s) :
    ∃ after, Delivers s ((lanes s).map Lane.all) after ∧ sound after ∧
      (lanes after).map Lane.all = (lanes s).map Lane.all := by
  obtain ⟨after, gives, last, same⟩ := tape.gives_lanes good (Nat.zero_add _)
  refine ⟨after, ⟨?_, gives⟩, last, same⟩
  rw [List.length_map, tape.cpuCount s good]

theorem used (tape : IsTape lanes sound) (good : sound s) {t : S} (used : Used s t) :
    sound t ∧ (lanes t).map Lane.all = (lanes s).map Lane.all := by
  induction used with
  | unread => exact ⟨good, rfl⟩
  | loaded _ ih =>
      obtain ⟨after, delivered, last, same⟩ := tape.delivers ih.1
      rw [readAll_eq_iff.mpr delivered]
      exact ⟨last, same.trans ih.2⟩
  | @reread t offset _ ih =>
      obtain ⟨kept, same⟩ := tape.recordAt t offset ih.1
      rw [same]
      exact ⟨kept, ih.2⟩

theorem replays (tape : IsTape lanes sound) (good : sound s) : Replays s := by
  intro t used
  obtain ⟨kept, same⟩ := tape.used good used
  obtain ⟨_, first, _⟩ := tape.delivers good
  obtain ⟨_, second, _⟩ := tape.delivers kept
  rw [readAll_eq_iff.mpr first, readAll_eq_iff.mpr second, same]

end IsTape

theorem IsTape.inl {T : Type} [RecordSource T] (tape : IsTape lanes sound) :
    IsTape (fun s : S ⊕ T => s.elim lanes fun _ => []) fun s => s.elim sound fun _ => False where
  cpuCount
    | .inl s, good => tape.cpuCount s good
  restart
    | .inl s, cpu, lane, good, found => by
      obtain ⟨after, read, kept, moved⟩ := tape.restart s cpu lane good found
      exact ⟨.inl after, congrArg (Prod.map id (Sum.inl : S → S ⊕ T)) read, kept, moved⟩
  next
    | .inl s, cpu, lane, good, found => by
      obtain ⟨after, read, kept, moved⟩ := tape.next s cpu lane good found
      exact ⟨.inl after, congrArg (Prod.map id (Sum.inl : S → S ⊕ T)) read, kept, moved⟩
  recordAt
    | .inl s, offset, good => tape.recordAt s offset good

theorem Script.advance_healthy {script : Script} {cpu : Nat} {lane : Lane Record}
    (step : Lane Record → Option Record × Lane Record) (healthy : script.breakdown = none)
    (found : script.lanes.toList[cpu]? = some lane) :
    ∃ after, script.advance cpu step = (.ok (step lane).1, after) ∧
      (after.breakdown = none ∧ after.cpuCount = script.cpuCount) ∧
      after.lanes.toList = script.lanes.toList.set cpu (step lane).2 := by
  rw [Array.getElem?_toList] at found
  obtain ⟨bound, rfl⟩ := Array.getElem?_eq_some_iff.mp found
  refine ⟨{ script with
    lanes := script.lanes.set cpu (step script.lanes[cpu]).2, breakdown := none }, ?_,
    ⟨rfl, rfl⟩, ?_⟩
  · rw [advance, dif_pos bound, healthy]
    rfl
  · rw [Array.toList_set]

theorem Script.isTape :
    IsTape (fun script : Script => script.lanes.toList)
      fun script => script.breakdown = none ∧ script.cpuCount = script.lanes.size where
  cpuCount script good := by
    rw [Array.length_toList]
    exact good.2
  restart script cpu lane good found := by
    obtain ⟨after, read, ⟨healthy, count⟩, moved⟩ :=
      advance_healthy Lane.first good.1 found
    refine ⟨after, read, ⟨healthy, ?_⟩, moved⟩
    rw [count, good.2, ← Array.length_toList, ← Array.length_toList, moved, List.length_set]
  next script cpu lane good found := by
    obtain ⟨after, read, ⟨healthy, count⟩, moved⟩ :=
      advance_healthy Lane.next good.1 found
    refine ⟨after, read, ⟨healthy, ?_⟩, moved⟩
    rw [count, good.2, ← Array.length_toList, ← Array.length_toList, moved, List.length_set]
  recordAt script offset good := by
    have unmoved : (RecordSource.recordAt script offset).2 = script := by
      simp only [RecordSource.recordAt]
      cases script.find? offset <;> rfl
    rw [unmoved]
    exact ⟨good, rfl⟩

theorem Script.ofLists_healthy (lists : List (List Record)) :
    (ofLists lists none none).breakdown = none ∧
      (ofLists lists none none).cpuCount = (ofLists lists none none).lanes.size := by
  simp [ofLists]

theorem Script.ofLists_delivers (lists : List (List Record)) :
    ∃ after, Delivers (ofLists lists none none) lists after := by
  obtain ⟨after, delivers, _⟩ := isTape.delivers (ofLists_healthy lists)
  have same : (ofLists lists none none).lanes.toList.map Lane.all = lists := by
    rw [ofLists, List.map_map]
    exact List.map_id lists
  rw [same] at delivers
  exact ⟨after, delivers⟩

theorem Script.ofLists_replays (lists : List (List Record)) :
    Replays (ofLists lists none none) :=
  isTape.replays (ofLists_healthy lists)

theorem Replay.advance_present {replay : Replay} {cpu : Nat} {lane : Lane Record}
    (step : Lane Record → Option Record × Lane Record)
    (found : replay.lanes.toList[cpu]? = some lane) :
    ∃ after, replay.advance cpu step = (.ok (step lane).1, after) ∧
      after.document = replay.document ∧
      after.lanes.toList = replay.lanes.toList.set cpu (step lane).2 := by
  rw [Array.getElem?_toList] at found
  obtain ⟨bound, rfl⟩ := Array.getElem?_eq_some_iff.mp found
  refine ⟨{ replay with lanes := replay.lanes.set cpu (step replay.lanes[cpu]).2 }, ?_, rfl, ?_⟩
  · rw [advance, dif_pos bound]
  · rw [Array.toList_set]

theorem Replay.isTape (document : Document) :
    IsTape (fun replay : Replay => replay.lanes.toList) fun replay =>
      replay.document = document ∧ document.cpuCount.toNat = replay.lanes.size where
  cpuCount replay good := by
    rw [Array.length_toList, ← good.2, ← good.1]
    rfl
  restart replay cpu lane good found := by
    obtain ⟨after, read, same, moved⟩ := advance_present Lane.first found
    refine ⟨after, read, ⟨same.trans good.1, ?_⟩, moved⟩
    rw [good.2, ← Array.length_toList, ← Array.length_toList, moved, List.length_set]
  next replay cpu lane good found := by
    obtain ⟨after, read, same, moved⟩ := advance_present Lane.next found
    refine ⟨after, read, ⟨same.trans good.1, ?_⟩, moved⟩
    rw [good.2, ← Array.length_toList, ← Array.length_toList, moved, List.length_set]
  recordAt replay offset good := by
    have unmoved : (RecordSource.recordAt replay offset).2 = replay := by
      simp only [RecordSource.recordAt]
      cases replay.document.records[offset.toNat]? <;> rfl
    rw [unmoved]
    exact ⟨good, rfl⟩

theorem Replay.sound_of_document {document : Document} {replay : Replay}
    (made : ofDocument document = .ok (.ok replay)) :
    replay.document = document ∧ document.cpuCount.toNat = replay.lanes.size := by
  unfold ofDocument at made
  split at made
  · cases made
  · split at made
    · cases made
    · cases made
      simp

end KernelTrace
