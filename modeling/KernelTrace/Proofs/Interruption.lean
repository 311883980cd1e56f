import KernelTrace.Proofs.Lanes

namespace KernelTrace

variable {S : Type} [RecordSource S] {s after : S} {cpu count : Nat} {records : List Record}
  {lanes : List (List Record)} {cause : SourceFault}

inductive BreaksRest : S → Nat → List Record → SourceFault → S → Prop
  | failed {s after : S} {cpu : Nat} {cause : SourceFault} :
      RecordSource.next s cpu = (.error cause, after) → BreaksRest s cpu [] cause after
  | more {s middle after : S} {cpu : Nat} {record : Record} {records : List Record}
      {cause : SourceFault} :
      RecordSource.next s cpu = (.ok (some record), middle) →
      BreaksRest middle cpu records cause after → BreaksRest s cpu (record :: records) cause after

inductive BreaksLane : S → Nat → List Record → SourceFault → S → Prop
  | failed {s after : S} {cpu : Nat} {cause : SourceFault} :
      RecordSource.restart s cpu = (.error cause, after) → BreaksLane s cpu [] cause after
  | more {s middle after : S} {cpu : Nat} {record : Record} {records : List Record}
      {cause : SourceFault} :
      RecordSource.restart s cpu = (.ok (some record), middle) →
      BreaksRest middle cpu records cause after → BreaksLane s cpu (record :: records) cause after

inductive BreaksLanes : S → Nat → List (List Record) → SourceFault → S → Prop
  | here {s after : S} {cpu : Nat} {lane : List Record} {cause : SourceFault} :
      BreaksLane s cpu lane cause after → BreaksLanes s cpu [lane] cause after
  | later {s middle after : S} {cpu : Nat} {lane : List Record} {lanes : List (List Record)}
      {cause : SourceFault} :
      GivesLane s cpu lane middle → BreaksLanes middle (cpu + 1) lanes cause after →
      BreaksLanes s cpu (lane :: lanes) cause after

def BreaksOff (s : S) (lanes : List (List Record)) (cause : SourceFault) (after : S) : Prop :=
  lanes.length ≤ RecordSource.cpuCount s ∧ BreaksLanes s 0 lanes cause after

theorem readRest_of_breaks (breaks : BreaksRest s cpu records cause after) :
    readRest s cpu = (⟨records, some cause⟩, after) := by
  induction breaks with
  | failed read =>
      rw [readRest]
      split <;> rename_i found <;> rw [read] at found <;> cases found
      rfl
  | more read _ ih =>
      rw [readRest]
      split <;> rename_i found <;> rw [read] at found <;> cases found
      simp only [ih]

theorem breaks_of_readRest (read : readRest s cpu = (⟨records, some cause⟩, after)) :
    BreaksRest s cpu records cause after := by
  fun_induction readRest s cpu generalizing records after with
  | case1 s fault middle found =>
      cases read
      exact .failed found
  | case2 => cases read
  | case3 s record middle found reading last rest ih =>
      simp only [Prod.mk.injEq, LaneReading.mk.injEq] at read
      obtain ⟨⟨rfl, failed⟩, rfl⟩ := read
      refine .more found (ih ?_)
      rw [rest]
      exact Prod.ext (by rw [← failed]) rfl

theorem readLane_breaks_iff :
    readLane s cpu = (⟨records, some cause⟩, after) ↔ BreaksLane s cpu records cause after := by
  constructor
  · intro read
    unfold readLane at read
    split at read
    · rename_i found
      cases read
      exact .failed found
    · cases read
    · rename_i record middle found
      simp only [Prod.mk.injEq, LaneReading.mk.injEq] at read
      obtain ⟨⟨rfl, failed⟩, rfl⟩ := read
      refine .more found (breaks_of_readRest ?_)
      exact Prod.ext (by rw [← failed]) rfl
  · intro breaks
    cases breaks with
    | failed found => simp only [readLane, found]
    | more found rest => simp only [readLane, found, readRest_of_breaks rest]

theorem readLanes_breaks_iff :
    readLanes s cpu count = (⟨lanes, some cause⟩, after) ↔
      lanes.length ≤ count ∧ BreaksLanes s cpu lanes cause after := by
  induction count generalizing s cpu lanes with
  | zero =>
      constructor
      · intro read
        cases read
      · rintro ⟨size, breaks⟩
        cases breaks with
        | here | later => cases size
  | succ count ih =>
      constructor
      · intro read
        simp only [readLanes] at read
        split at read
        · rename_i fault failed
          simp only [Prod.mk.injEq, Reading.mk.injEq, Option.some.injEq] at read
          obtain ⟨⟨rfl, rfl⟩, rfl⟩ := read
          refine ⟨Nat.succ_le_succ (Nat.zero_le count), .here (readLane_breaks_iff.mp ?_)⟩
          exact Prod.ext (by rw [← failed]) rfl
        · rename_i sound
          simp only [Prod.mk.injEq, Reading.mk.injEq] at read
          obtain ⟨⟨rfl, failed⟩, rfl⟩ := read
          have first : GivesLane s cpu (readLane s cpu).1.records (readLane s cpu).2 :=
            readLane_eq_iff.mp (Prod.ext (by rw [← sound]) rfl)
          obtain ⟨size, others⟩ := ih.mp (Prod.ext (by rw [← failed]) rfl)
          exact ⟨Nat.succ_le_succ size, .later first others⟩
      · rintro ⟨size, breaks⟩
        cases breaks with
        | here last => simp only [readLanes, readLane_breaks_iff.mpr last]
        | later first others =>
            have rest := ih.mpr ⟨Nat.le_of_succ_le_succ size, others⟩
            simp only [readLanes, readLane_eq_iff.mpr first, rest]

theorem readAll_breaks_iff :
    readAll s = (⟨lanes, some cause⟩, after) ↔ BreaksOff s lanes cause after :=
  readLanes_breaks_iff

namespace Loader

variable {H σ : Type} [Plugin H σ] {loader : Loader H} {source : S} {host : σ} {fault : Fault}

/-- A run that reports a fault met it at a read. Until then it has completed every record. -/
theorem run_eq_fault (ran : (loader.run source host).1.outcome = .error (.fault fault)) :
    ∃ lanes cause, fault = .source cause ∧
      BreaksOff source lanes cause (loader.run source host).2.1 ∧
      (loader.run source host).1.completed = lanes.flatten.length := by
  rcases read : readAll source with ⟨⟨lanes, failed⟩, after⟩
  cases panic : (loader.buildLanes lanes host).1.panic with
  | some cause =>
      simp only [run, read, panic] at ran
      cases ran
  | none =>
      cases failed with
      | none =>
          simp only [run, read, panic] at ran
          cases ran
      | some cause =>
          simp only [run, read, panic] at ran ⊢
          cases ran
          refine ⟨lanes, cause, rfl, readAll_breaks_iff.mp read, ?_⟩
          exact length_of_pairs_up (buildLanes_pairs_up panic)

theorem run_of_breaks {lanes : List (List Record)} {cause : SourceFault} {after : S}
    (breaks : BreaksOff source lanes cause after) (calm : loader.IsCalm lanes.flatten) (host : σ) :
    (loader.run source host).1.outcome = .error (.fault (.source cause)) := by
  have read := readAll_breaks_iff.mpr breaks
  simp only [run, read, buildLanes_calm calm host]

end Loader

end KernelTrace
