import KernelTrace.Trace.Reading

namespace KernelTrace

variable {S : Type} [RecordSource S]

inductive GivesRest : S → Nat → List Record → S → Prop
  | ended {s after : S} {cpu : Nat} :
      RecordSource.next s cpu = (.ok none, after) → GivesRest s cpu [] after
  | more {s middle after : S} {cpu : Nat} {record : Record} {records : List Record} :
      RecordSource.next s cpu = (.ok (some record), middle) →
      GivesRest middle cpu records after → GivesRest s cpu (record :: records) after

inductive GivesLane : S → Nat → List Record → S → Prop
  | empty {s after : S} {cpu : Nat} :
      RecordSource.restart s cpu = (.ok none, after) → GivesLane s cpu [] after
  | more {s middle after : S} {cpu : Nat} {record : Record} {records : List Record} :
      RecordSource.restart s cpu = (.ok (some record), middle) →
      GivesRest middle cpu records after → GivesLane s cpu (record :: records) after

inductive GivesLanes : S → Nat → List (List Record) → S → Prop
  | nil {s : S} {cpu : Nat} : GivesLanes s cpu [] s
  | cons {s middle after : S} {cpu : Nat} {lane : List Record} {lanes : List (List Record)} :
      GivesLane s cpu lane middle → GivesLanes middle (cpu + 1) lanes after →
      GivesLanes s cpu (lane :: lanes) after

/-- Every read succeeds, and each CPU gives its lane. -/
def Delivers (s : S) (lanes : List (List Record)) (after : S) : Prop :=
  lanes.length = RecordSource.cpuCount s ∧ GivesLanes s 0 lanes after

theorem readRest_of_gives {s after : S} {cpu : Nat} {records : List Record}
    (gives : GivesRest s cpu records after) : readRest s cpu = (⟨records, none⟩, after) := by
  induction gives with
  | ended read =>
      rw [readRest]
      split <;> rename_i found <;> rw [read] at found <;> cases found
      rfl
  | more read _ ih =>
      rw [readRest]
      split <;> rename_i found <;> rw [read] at found <;> cases found
      simp only [ih]

theorem gives_of_readRest {s after : S} {cpu : Nat} {records : List Record}
    (read : readRest s cpu = (⟨records, none⟩, after)) : GivesRest s cpu records after := by
  fun_induction readRest s cpu generalizing records after with
  | case1 => cases read
  | case2 s middle found =>
      cases read
      exact .ended found
  | case3 s record middle found reading last rest ih =>
      simp only [Prod.mk.injEq, LaneReading.mk.injEq] at read
      obtain ⟨⟨rfl, sound⟩, rfl⟩ := read
      refine .more found (ih ?_)
      rw [rest]
      exact Prod.ext (by rw [← sound]) rfl

theorem readLane_eq_iff {s after : S} {cpu : Nat} {records : List Record} :
    readLane s cpu = (⟨records, none⟩, after) ↔ GivesLane s cpu records after := by
  constructor
  · intro read
    unfold readLane at read
    split at read
    · cases read
    · rename_i found
      cases read
      exact .empty found
    · rename_i record middle found
      simp only [Prod.mk.injEq, LaneReading.mk.injEq] at read
      obtain ⟨⟨rfl, sound⟩, rfl⟩ := read
      refine .more found (gives_of_readRest ?_)
      exact Prod.ext (by rw [← sound]) rfl
  · intro gives
    cases gives with
    | empty found => simp only [readLane, found]
    | more found rest => simp only [readLane, found, readRest_of_gives rest]

theorem readLanes_eq_iff {s after : S} {cpu count : Nat} {lanes : List (List Record)} :
    readLanes s cpu count = (⟨lanes, none⟩, after) ↔
      lanes.length = count ∧ GivesLanes s cpu lanes after := by
  induction count generalizing s cpu lanes with
  | zero =>
      constructor
      · intro read
        cases read
        exact ⟨rfl, .nil⟩
      · intro ⟨size, gives⟩
        cases gives with
        | nil => rfl
        | cons => cases size
  | succ count ih =>
      constructor
      · intro read
        simp only [readLanes] at read
        split at read
        · cases read
        · rename_i sound
          simp only [Prod.mk.injEq, Reading.mk.injEq] at read
          obtain ⟨⟨rfl, restSound⟩, rfl⟩ := read
          have first : GivesLane s cpu (readLane s cpu).1.records (readLane s cpu).2 :=
            readLane_eq_iff.mp (Prod.ext (by rw [← sound]) rfl)
          obtain ⟨size, others⟩ := ih.mp (Prod.ext (by rw [← restSound]) rfl)
          exact ⟨by rw [List.length_cons, size], .cons first others⟩
      · intro ⟨size, gives⟩
        cases gives with
        | nil => cases size
        | cons first others =>
            have rest := ih.mpr ⟨Nat.succ.inj size, others⟩
            simp only [readLanes, readLane_eq_iff.mpr first, rest]

theorem readAll_eq_iff {s after : S} {lanes : List (List Record)} :
    readAll s = (⟨lanes, none⟩, after) ↔ Delivers s lanes after :=
  readLanes_eq_iff

/-- The second source is the first after loads and single reads. -/
inductive Used (s : S) : S → Prop
  | unread : Used s s
  | loaded {t : S} : Used s t → Used s (readAll t).2
  | reread {t : S} {offset : UInt64} : Used s t → Used s (RecordSource.recordAt t offset).2

/-- However it has been used, the source reads as it does now. -/
def Replays (s : S) : Prop := ∀ t, Used s t → (readAll t).1 = (readAll s).1

/-- However it has been used, the source gives the same lanes whenever all its reads succeed. -/
def Repeats (s : S) : Prop :=
  ∀ t u lanes others, Used s t → Used s u → (readAll t).1 = ⟨lanes, none⟩ →
    (readAll u).1 = ⟨others, none⟩ → lanes = others

theorem Used.trans {s t u : S} (first : Used s t) (second : Used t u) : Used s u := by
  induction second with
  | unread => exact first
  | loaded _ ih => exact ih.loaded
  | reread _ ih => exact ih.reread

end KernelTrace
