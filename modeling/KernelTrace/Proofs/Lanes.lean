import KernelTrace.Load
import KernelTrace.Proofs.Hooks
import KernelTrace.Proofs.Merge
import KernelTrace.Proofs.Tapes
import Mathlib.Data.List.Forall2

/-! What a load makes of the records of each CPU: one entry each, in order, after a loss marker
where events were lost. The main theorem says that a load of a source whose reads all succeed
loses, doubles and reorders nothing. -/

namespace KernelTrace

/-- Ten nanoseconds earlier, stopping at the earliest time. -/
theorem toInt_backBy (ts : Int64) :
    (backBy lossLead ts).toInt = max (ts.toInt - 10) Int64.minValue.toInt := by
  have lead : lossLead.toInt = 10 := by decide
  have least := Int64.toInt_minValue
  have below := Int64.toInt_lt ts
  unfold backBy
  split
  · omega
  · rw [Int64.toInt_sub, Int.bmod_eq_of_le] <;> omega

theorem backBy_le (ts : Int64) : backBy lossLead ts ≤ ts := by
  have least := Int64.le_iff_toInt_le.mp (Int64.minValue_le ts)
  rw [Int64.le_iff_toInt_le, toInt_backBy]
  omega

theorem max_le_iff_of_times (a b c : Int64) : max a b ≤ c ↔ a ≤ c ∧ b ≤ c := by
  change (if a ≤ b then b else a) ≤ c ↔ a ≤ c ∧ b ≤ c
  split
  · rename_i below
    exact ⟨fun bound => ⟨Int64.le_trans below bound, bound⟩, fun bounds => bounds.2⟩
  · rename_i above
    have other := Int64.le_of_lt (Int64.not_le.mp above)
    exact ⟨fun bound => ⟨bound, Int64.le_trans other bound⟩, fun bounds => bounds.1⟩

namespace Loader

variable {H σ : Type} [Plugin H σ] {loader : Loader H}

def finish (loader : Loader H) (fired : List (Hook H)) (left : Entry) (admitted : Bool) : Entry :=
  let visible := if fired.isEmpty then left.visible else left.visible &&& ~~~View.untouched
  { left with visible := loader.filters.restrict visible left admitted loader.mask }

theorem entry_run (loader : Loader H) (record : Record) (host : σ) :
    runFrom (loader.entry record) host =
      match runFrom (loader.hooks.dispatch record (loader.draft record)) host with
      | (.error panic, after) => (.error panic, after)
      | (.ok (fired, left), after) =>
        ((loader.filters.admits record).map (loader.finish fired left), after) := by
  rw [entry, runFrom_bind]
  rcases runFrom (loader.hooks.dispatch record (loader.draft record)) host
    with ⟨panic | ⟨fired, left⟩, after⟩
  · rfl
  · exact runFrom_bind_pure _ (loader.finish fired left) after

theorem entry_of_dispatch {record : Record} {host host' : σ} {fired : List (Hook H)} {left : Entry}
    {admitted : Bool}
    (dispatched : runFrom (loader.hooks.dispatch record (loader.draft record)) host =
      (.ok (fired, left), host'))
    (admits : loader.filters.admits record = .ok admitted) :
    runFrom (loader.entry record) host = (.ok (loader.finish fired left admitted), host') := by
  rw [entry_run, dispatched, admits]
  rfl

theorem entry_eq_ok {record : Record} {host host' : σ} {entry : Entry}
    (made : runFrom (loader.entry record) host = (.ok entry, host')) :
    ∃ fired left admitted,
      runFrom (loader.hooks.dispatch record (loader.draft record)) host =
        (.ok (fired, left), host') ∧
      loader.filters.admits record = .ok admitted ∧ entry = loader.finish fired left admitted := by
  rw [Loader.entry] at made
  obtain ⟨⟨fired, left⟩, middle, dispatched, rest⟩ := runFrom_bind_eq_ok made
  obtain ⟨admitted, last, admits, final⟩ := runFrom_bind_eq_ok rest
  rw [runFrom_mk_pure] at admits
  obtain ⟨verdict, rfl⟩ := Prod.mk.inj admits
  cases final
  exact ⟨fired, left, admitted, dispatched, verdict, rfl⟩

/-- From some state of the plugins, the loader makes this entry of the record. -/
def Makes (loader : Loader H) (record : Record) (entry : Entry) : Prop :=
  ∃ host host' : σ, runFrom (loader.entry record) host = (.ok entry, host')

theorem makes_keeps {α : Type} {part : Entry → α} {record : Record} {entry : Entry}
    (keeps : ∀ hook ∈ loader.hooks.hooks, Plugin.Keeps hook.plugin part)
    (blind : ∀ (entry : Entry) (visible : UInt8), part { entry with visible } = part entry)
    (makes : loader.Makes record entry) : part entry = part (loader.draft record) := by
  obtain ⟨host, host', made⟩ := makes
  obtain ⟨fired, left, admitted, dispatched, _, rfl⟩ := entry_eq_ok made
  rw [finish, blind]
  exact HookTable.fire_keeps keeps dispatched

/-- No plugin panics, and the content filter comes to a verdict on each of these records. -/
def IsCalm (loader : Loader H) (records : List Record) : Prop :=
  (∀ hook ∈ loader.hooks.hooks, Plugin.IsCalm hook.plugin) ∧
    ∀ record ∈ records, ∃ verdict, loader.filters.admits record = .ok verdict

def PairsUp (loader : Loader H) (records : List Record) (pairs : List (Record × Entry)) : Prop :=
  pairs.map Prod.fst = records ∧ ∀ pair ∈ pairs, loader.Makes pair.1 pair.2

theorem build_pairs_up {records : List Record} {host : σ}
    (calm : (loader.build records host).1.panic = none) :
    loader.PairsUp records (loader.build records host).1.made := by
  induction records generalizing host with
  | nil => exact ⟨rfl, fun pair member => nomatch member⟩
  | cons record records ih =>
      rcases made : (loader.entry record).run.run host with ⟨outcome, after⟩
      cases outcome with
      | error panic =>
          simp only [build, made] at calm
          cases calm
      | ok entry =>
          simp only [build, made] at calm ⊢
          obtain ⟨same, makes⟩ := ih calm
          refine ⟨by rw [List.map_cons, same], ?_⟩
          intro pair member
          rcases List.mem_cons.mp member with rfl | member
          · exact ⟨host, after, made⟩
          · exact makes pair member

theorem buildLanes_pairs_up {lanes : List (List Record)} {host : σ}
    (calm : (loader.buildLanes lanes host).1.panic = none) :
    List.Forall₂ loader.PairsUp lanes (loader.buildLanes lanes host).1.made := by
  induction lanes generalizing host with
  | nil => exact .nil
  | cons lane lanes ih =>
      cases first : (loader.build lane host).1.panic with
      | some panic =>
          simp only [buildLanes, first] at calm
          cases calm
      | none =>
          simp only [buildLanes, first] at calm ⊢
          exact .cons (build_pairs_up first) (ih calm)

theorem build_calm {records : List Record} (calm : loader.IsCalm records) (host : σ) :
    (loader.build records host).1.panic = none := by
  induction records generalizing host with
  | nil => rfl
  | cons record records ih =>
      obtain ⟨fired, left, after, dispatched⟩ : ∃ fired left after,
          runFrom (loader.hooks.dispatch record (loader.draft record)) host =
            (.ok (fired, left), after) :=
        HookTable.fire_calm calm.1 (loader.draft record) host
      obtain ⟨verdict, admits⟩ := calm.2 record List.mem_cons_self
      have made := entry_of_dispatch dispatched admits
      rw [runFrom] at made
      simp only [build, made]
      exact ih ⟨calm.1, fun other member => calm.2 other (List.mem_cons_of_mem record member)⟩ after

theorem buildLanes_calm {lanes : List (List Record)} (calm : loader.IsCalm lanes.flatten)
    (host : σ) : (loader.buildLanes lanes host).1.panic = none := by
  induction lanes generalizing host with
  | nil => rfl
  | cons lane lanes ih =>
      have first : (loader.build lane host).1.panic = none := by
        apply build_calm
        exact ⟨calm.1, fun record member => calm.2 record (by simp [member])⟩
      simp only [buildLanes, first]
      apply ih
      refine ⟨calm.1, fun record member => calm.2 record ?_⟩
      rw [List.flatten_cons]
      exact List.mem_append_right lane member

def Marks (loader : Loader H) (marker : Entry) (record : Record) : Prop :=
  marker.stream = loader.stream ∧ marker.eventId = Entry.lostId ∧
    marker.cpu = record.cpu.toInt32 ∧ marker.pid = record.pid ∧
    marker.offset = record.missed ∧ marker.visible = View.all

/-- For each record in order one entry at its time, after one loss marker exactly if it follows a
loss. The time of a marker lies between those of the entry before it, `previous`, and its record. -/
inductive LaysOut (loader : Loader H) : Option Int64 → List Record → List Entry → Prop
  | nil {previous : Option Int64} : LaysOut loader previous [] []
  | whole {previous : Option Int64} {record : Record} {entry : Entry} {records : List Record}
      {entries : List Entry} :
      record.missed = 0 → loader.Makes record entry → entry.ts = loader.time record.ts →
      LaysOut loader (some entry.ts) records entries →
      LaysOut loader previous (record :: records) (entry :: entries)
  | afterLoss {previous : Option Int64} {record : Record} {marker entry : Entry}
      {records : List Record} {entries : List Entry} :
      0 < record.missed → loader.Marks marker record →
      (∀ time, previous = some time → time ≤ marker.ts) → marker.ts ≤ loader.time record.ts →
      loader.Makes record entry → entry.ts = loader.time record.ts →
      LaysOut loader (some entry.ts) records entries →
      LaysOut loader previous (record :: records) (marker :: entry :: entries)

theorem marker_marks (record : Record) (previous : Option Int64) :
    loader.Marks (loader.marker record previous) record :=
  ⟨rfl, rfl, rfl, rfl, rfl, rfl⟩

theorem marker_not_before (record : Record) (previous : Int64) :
    previous ≤ (loader.marker record (some previous)).ts :=
  ((max_le_iff_of_times _ previous _).mp (Int64.le_refl _)).2

theorem marker_not_after {record : Record} {previous : Option Int64} {bound : Int64}
    (led : loader.time (backBy lossLead record.ts) ≤ bound)
    (after : ∀ time, previous = some time → time ≤ bound) :
    (loader.marker record previous).ts ≤ bound := by
  cases previous with
  | none => exact led
  | some time => exact (max_le_iff_of_times _ time bound).mpr ⟨led, after time rfl⟩

def stamps (records : List Record) : List Int64 :=
  records.flatMap fun record => [backBy lossLead record.ts, record.ts]

/-- The clock does not turn back between these times, as no clock that never turns back does. -/
def RunsForward (loader : Loader H) (times : List Int64) : Prop :=
  ∀ a ∈ times, ∀ b ∈ times, a ≤ b → loader.time a ≤ loader.time b

theorem RunsForward.rising {records : List Record} (forward : loader.RunsForward (stamps records))
    (ordered : records.Pairwise fun a b => a.ts ≤ b.ts) :
    records.Pairwise fun a b => loader.time a.ts ≤ loader.time b.ts := by
  have stamped : ∀ record ∈ records, record.ts ∈ stamps records := by
    intro record member
    exact List.mem_flatMap.mpr ⟨record, member, by simp⟩
  refine ordered.imp_of_mem ?_
  intro a b first second below
  exact forward a.ts (stamped a first) b.ts (stamped b second) below

theorem RunsForward.leads {records : List Record} (forward : loader.RunsForward (stamps records)) :
    ∀ record ∈ records, loader.time (backBy lossLead record.ts) ≤ loader.time record.ts := by
  intro record member
  have stamped : ∀ ts ∈ [backBy lossLead record.ts, record.ts], ts ∈ stamps records :=
    fun ts here => List.mem_flatMap.mpr ⟨record, member, here⟩
  exact forward _ (stamped _ (by simp)) _ (stamped _ (by simp)) (backBy_le record.ts)

theorem withMarkers_lays_out {pairs : List (Record × Entry)} {previous : Option Int64}
    (makes : ∀ pair ∈ pairs, loader.Makes pair.1 pair.2)
    (keepsTime : ∀ hook ∈ loader.hooks.hooks, Plugin.Keeps hook.plugin Entry.ts)
    (leads : ∀ record ∈ pairs.map Prod.fst, record.missed ≠ 0 →
      loader.time (backBy lossLead record.ts) ≤ loader.time record.ts)
    (rising : (pairs.map Prod.fst).Pairwise fun a b => loader.time a.ts ≤ loader.time b.ts)
    (after : ∀ time, previous = some time → ∀ pair ∈ pairs, time ≤ loader.time pair.1.ts) :
    loader.LaysOut previous (pairs.map Prod.fst) (loader.withMarkers previous pairs) := by
  induction pairs generalizing previous with
  | nil => exact .nil
  | cons pair pairs ih =>
      obtain ⟨record, entry⟩ := pair
      have made := makes (record, entry) List.mem_cons_self
      have onTime : entry.ts = loader.time record.ts :=
        makes_keeps keepsTime (fun _ _ => rfl) made
      rw [List.map_cons, List.pairwise_cons] at rising
      have rest : loader.LaysOut (some entry.ts) (pairs.map Prod.fst)
          (loader.withMarkers (some entry.ts) pairs) := by
        apply ih (fun other member => makes other (List.mem_cons_of_mem _ member))
          (fun other member => leads other (List.mem_cons_of_mem _ member)) rising.2
        intro time same other member
        cases same
        rw [onTime]
        exact rising.1 other.1 (List.mem_map_of_mem member)
      rw [List.map_cons, withMarkers]
      split
      · rename_i whole
        exact .whole whole made onTime rest
      · rename_i lossy
        refine .afterLoss ?_ (marker_marks record previous) ?_ ?_ made onTime rest
        · exact UInt64.pos_iff_ne_zero.mpr lossy
        · intro time same
          rw [same]
          exact marker_not_before record time
        · apply marker_not_after (leads record List.mem_cons_self lossy)
          intro time same
          exact after time same (record, entry) List.mem_cons_self

theorem LaysOut.ordered {previous : Option Int64} {records : List Record} {entries : List Entry}
    (laysOut : loader.LaysOut previous records entries)
    (rising : records.Pairwise fun a b => loader.time a.ts ≤ loader.time b.ts)
    (after : ∀ time, previous = some time → ∀ record ∈ records, time ≤ loader.time record.ts) :
    isOrdered entries ∧ ∀ time, previous = some time → ∀ entry ∈ entries, time ≤ entry.ts := by
  induction laysOut with
  | nil => exact ⟨rfl, fun _ _ entry member => nomatch member⟩
  | @whole previous record entry records entries _ _ onTime _ ih =>
      rw [List.pairwise_cons] at rising
      obtain ⟨ordered, above⟩ := ih rising.2 (by
        intro time same
        cases same
        rw [onTime]
        exact rising.1)
      refine ⟨isOrdered_cons.mpr ⟨above entry.ts rfl, ordered⟩, ?_⟩
      intro time same
      have below : time ≤ entry.ts := by
        rw [onTime]
        exact after time same record List.mem_cons_self
      intro other member
      rcases List.mem_cons.mp member with rfl | member
      · exact below
      · exact Int64.le_trans below (above entry.ts rfl other member)
  | @afterLoss previous record marker entry records entries _ _ notBefore notAfter _ onTime _ ih =>
      rw [List.pairwise_cons] at rising
      obtain ⟨ordered, above⟩ := ih rising.2 (by
        intro time same
        cases same
        rw [onTime]
        exact rising.1)
      have led : ∀ other ∈ entry :: entries, marker.ts ≤ other.ts := by
        intro other member
        rw [← onTime] at notAfter
        rcases List.mem_cons.mp member with rfl | member
        · exact notAfter
        · exact Int64.le_trans notAfter (above entry.ts rfl other member)
      refine ⟨isOrdered_cons.mpr ⟨led, isOrdered_cons.mpr ⟨above entry.ts rfl, ordered⟩⟩, ?_⟩
      intro time same other member
      rcases List.mem_cons.mp member with rfl | member
      · exact notBefore time same
      · exact Int64.le_trans (notBefore time same) (led other member)

def lossyCount (records : List Record) : Nat := records.countP (0 < ·.missed)

theorem LaysOut.length {previous : Option Int64} {records : List Record} {entries : List Entry}
    (laysOut : loader.LaysOut previous records entries) :
    entries.length = records.length + lossyCount records := by
  induction laysOut with
  | nil => rfl
  | whole whole _ _ _ ih =>
      simp only [lossyCount] at ih ⊢
      simp [ih, whole]
      omega
  | afterLoss lossy _ _ _ _ _ _ ih =>
      simp only [lossyCount] at ih ⊢
      simp [ih, lossy]
      omega

def laneEntries (loader : Loader H) (lanes : List (List Record)) (host : σ) :
    List (List Entry) :=
  (loader.buildLanes lanes host).1.made.map (loader.withMarkers none)

theorem laneEntries_singleton (loader : Loader H) (records : List Record) (host : σ) :
    loader.laneEntries [records] host =
      [loader.withMarkers none (loader.build records host).1.made] := by
  simp only [laneEntries, buildLanes]
  split <;> rfl

theorem laneEntries_lay_out {lanes : List (List Record)} {host : σ}
    (calm : (loader.buildLanes lanes host).1.panic = none)
    (keepsTime : ∀ hook ∈ loader.hooks.hooks, Plugin.Keeps hook.plugin Entry.ts)
    (ordered : ∀ lane ∈ lanes, lane.Pairwise fun a b => a.ts ≤ b.ts)
    (forward : ∀ lane ∈ lanes, loader.RunsForward (stamps lane)) :
    List.Forall₂ (loader.LaysOut none) lanes (loader.laneEntries lanes host) := by
  rw [laneEntries, List.forall₂_map_right_iff]
  have paired := buildLanes_pairs_up calm
  refine (List.forall₂_and_left _ _ |>.mpr ⟨fun lane member => member, paired⟩).imp ?_
  rintro lane pairs ⟨member, rfl, makes⟩
  have runs := forward _ member
  exact withMarkers_lays_out makes keepsTime (fun record inside _ => runs.leads record inside)
    (runs.rising (ordered _ member)) fun time none => nomatch none

theorem totalLength_of_lays_out {lanes : List (List Record)} {lists : List (List Entry)}
    (layOut : List.Forall₂ (loader.LaysOut none) lanes lists) :
    totalLength lists = lanes.flatten.length + lossyCount lanes.flatten := by
  induction layOut with
  | nil => rfl
  | @cons lane list lanes lists first _ ih =>
      have head := first.length
      simp only [totalLength, lossyCount, List.flatten_cons, List.length_append,
        List.countP_append] at ih head ⊢
      omega

theorem ordered_of_lay_out {lanes : List (List Record)} {lists : List (List Entry)}
    (layOut : List.Forall₂ (loader.LaysOut none) lanes lists)
    (ordered : ∀ lane ∈ lanes, lane.Pairwise fun a b => a.ts ≤ b.ts)
    (forward : ∀ lane ∈ lanes, loader.RunsForward (stamps lane)) :
    ∀ list ∈ lists, isOrdered list := by
  induction layOut with
  | nil => exact fun list member => nomatch member
  | @cons lane list lanes lists first _ ih =>
      intro other member
      rcases List.mem_cons.mp member with rfl | member
      · have rising := (forward lane List.mem_cons_self).rising (ordered lane List.mem_cons_self)
        exact (first.ordered rising fun time none => nomatch none).1
      · exact ih (fun lane member => ordered lane (List.mem_cons_of_mem _ member))
          (fun lane member => forward lane (List.mem_cons_of_mem _ member)) other member

variable {S : Type} [RecordSource S] {source after : S} {lanes : List (List Record)} {host : σ}

theorem run_of_delivers (delivers : Delivers source lanes after) :
    (loader.run source host).1 =
      { outcome :=
          match (loader.buildLanes lanes host).1.panic with
          | some panic => .error (.panic panic)
          | none => .ok
              { entries := mergeLanes (loader.laneEntries lanes host)
                tasks := .ofList
                  ((loader.buildLanes lanes host).1.made.flatten.map (·.2.pid)) }
        completed := (loader.buildLanes lanes host).1.made.flatten.length } := by
  have read := readAll_eq_iff.mpr delivers
  simp only [run, read]
  cases (loader.buildLanes lanes host).1.panic <;> rfl

theorem run_eq_ok {loaded : LoadResult} (delivers : Delivers source lanes after)
    (ran : (loader.run source host).1.outcome = .ok loaded) :
    (loader.buildLanes lanes host).1.panic = none ∧
      loaded.entries = mergeLanes (loader.laneEntries lanes host) := by
  rw [run_of_delivers delivers] at ran
  cases panic : (loader.buildLanes lanes host).1.panic with
  | some cause =>
      rw [panic] at ran
      cases ran
  | none =>
      rw [panic] at ran
      cases ran
      exact ⟨rfl, rfl⟩

theorem run_calm (delivers : Delivers source lanes after) (calm : loader.IsCalm lanes.flatten) :
    ∃ loaded, (loader.run source host).1.outcome = .ok loaded := by
  rw [run_of_delivers delivers, buildLanes_calm calm host]
  exact ⟨_, rfl⟩

/-- A run succeeds only when every read does. -/
theorem delivers_of_run_ok {loaded : LoadResult}
    (ran : (loader.run source host).1.outcome = .ok loaded) :
    Delivers source (readAll source).1.lanes (readAll source).2 := by
  apply readAll_eq_iff.mp
  simp only [run] at ran
  split at ran
  · cases ran
  · cases ran
  · rename_i sound
    exact Prod.ext (by rw [← sound]) rfl

theorem mem_withMarkers {pairs : List (Record × Entry)} {previous : Option Int64} {entry : Entry}
    (member : entry ∈ loader.withMarkers previous pairs) :
    (∃ pair ∈ pairs, entry = pair.2) ∨
      ∃ record before, entry = loader.marker record before := by
  induction pairs generalizing previous with
  | nil => cases member
  | cons pair pairs ih =>
      obtain ⟨record, made⟩ := pair
      rw [withMarkers] at member
      have others : entry ∈ loader.withMarkers (some made.ts) pairs →
          (∃ pair ∈ (record, made) :: pairs, entry = pair.2) ∨
            ∃ record before, entry = loader.marker record before := by
        intro member
        rcases ih member with ⟨pair, present, same⟩ | marker
        · exact .inl ⟨pair, List.mem_cons_of_mem _ present, same⟩
        · exact .inr marker
      have first : entry = made → ∃ pair ∈ (record, made) :: pairs, entry = pair.2 :=
        fun same => ⟨(record, made), List.mem_cons_self, same⟩
      split at member
      · rcases List.mem_cons.mp member with same | member
        · exact .inl (first same)
        · exact others member
      · rcases List.mem_cons.mp member with same | member
        · exact .inr ⟨record, previous, same⟩
        · rcases List.mem_cons.mp member with same | member
          · exact .inl (first same)
          · exact others member

theorem exists_pairs_up {made : List (List (Record × Entry))}
    (paired : List.Forall₂ loader.PairsUp lanes made) {pairs : List (Record × Entry)}
    (member : pairs ∈ made) : ∃ lane ∈ lanes, loader.PairsUp lane pairs := by
  induction paired with
  | nil => cases member
  | cons first _ ih =>
      rcases List.mem_cons.mp member with rfl | member
      · exact ⟨_, List.mem_cons_self, first⟩
      · obtain ⟨lane, present, paired⟩ := ih member
        exact ⟨lane, List.mem_cons_of_mem _ present, paired⟩

theorem mem_run {loaded : LoadResult} {entry : Entry}
    (ran : (loader.run source host).1.outcome = .ok loaded) (member : entry ∈ loaded.entries) :
    (∃ lane ∈ (readAll source).1.lanes, ∃ record ∈ lane, loader.Makes record entry) ∨
      ∃ record before, entry = loader.marker record before := by
  obtain ⟨calm, merged⟩ := run_eq_ok (delivers_of_run_ok ran) ran
  rw [merged, mem_mergeLanes] at member
  obtain ⟨list, listed, member⟩ := member
  obtain ⟨pairs, built, rfl⟩ := List.mem_map.mp listed
  rcases mem_withMarkers member with ⟨pair, present, rfl⟩ | marker
  · obtain ⟨lane, read, same, makes⟩ := exists_pairs_up (buildLanes_pairs_up calm) built
    refine .inl ⟨lane, read, pair.1, ?_, makes pair present⟩
    rw [← same]
    exact List.mem_map_of_mem present
  · exact .inr marker

theorem stream_of_run {loaded : LoadResult} {entry : Entry}
    (keepsStream : ∀ hook ∈ loader.hooks.hooks, Plugin.Keeps hook.plugin Entry.stream)
    (ran : (loader.run source host).1.outcome = .ok loaded) (member : entry ∈ loaded.entries) :
    entry.stream = loader.stream := by
  rcases mem_run ran member with ⟨_, _, record, _, makes⟩ | ⟨record, before, rfl⟩
  · exact makes_keeps keepsStream (fun _ _ => rfl) makes
  · rfl

theorem pairs_up_flatten {made : List (List (Record × Entry))}
    (paired : List.Forall₂ loader.PairsUp lanes made) :
    loader.PairsUp lanes.flatten made.flatten := by
  induction paired with
  | nil => exact ⟨rfl, List.forall_mem_nil _⟩
  | cons first _ ih =>
      obtain ⟨rfl, makes⟩ := first
      obtain ⟨same, others⟩ := ih
      refine ⟨by rw [List.flatten_cons, List.map_append, same, List.flatten_cons], ?_⟩
      intro pair member
      rcases List.mem_append.mp member with here | there
      · exact makes pair here
      · exact others pair there

theorem length_of_pairs_up {made : List (List (Record × Entry))}
    (paired : List.Forall₂ loader.PairsUp lanes made) :
    made.flatten.length = lanes.flatten.length := by
  rw [← (pairs_up_flatten paired).1, List.length_map]

theorem run_completed (delivers : Delivers source lanes after)
    (calm : (loader.buildLanes lanes host).1.panic = none) :
    (loader.run source host).1.completed = lanes.flatten.length := by
  rw [run_of_delivers delivers]
  exact length_of_pairs_up (buildLanes_pairs_up calm)

/-- A load of a source whose reads all succeed and whose CPUs never go back in time, with plugins
that leave the time alone and a clock that never turns back, loses, doubles and reorders nothing. -/
theorem run_keeps_every_record (delivers : Delivers source lanes after)
    (ordered : ∀ lane ∈ lanes, lane.Pairwise fun a b => a.ts ≤ b.ts)
    (forward : ∀ lane ∈ lanes, loader.RunsForward (stamps lane))
    (keepsTime : ∀ hook ∈ loader.hooks.hooks, Plugin.Keeps hook.plugin Entry.ts) :
    (loader.IsCalm lanes.flatten → ∃ loaded, (loader.run source host).1.outcome = .ok loaded) ∧
      ∀ loaded, (loader.run source host).1.outcome = .ok loaded →
        List.Forall₂ (loader.LaysOut none) lanes (loader.laneEntries lanes host) ∧
        (∀ list ∈ loader.laneEntries lanes host,
          isOrdered list ∧ list.Sublist loaded.entries) ∧
        loaded.entries = mergeLanes (loader.laneEntries lanes host) ∧
        isOrdered loaded.entries ∧
        loaded.entries.Perm (loader.laneEntries lanes host).flatten ∧
        loaded.entries.length = lanes.flatten.length + lossyCount lanes.flatten ∧
        (loader.run source host).1.completed = lanes.flatten.length := by
  refine ⟨run_calm delivers, ?_⟩
  intro loaded ran
  obtain ⟨calm, merged⟩ := run_eq_ok delivers ran
  have layOut := laneEntries_lay_out calm keepsTime ordered forward
  have listsOrdered := ordered_of_lay_out layOut ordered forward
  refine ⟨layOut, ?_, merged, ?_, ?_, ?_, run_completed delivers calm⟩
  · intro list member
    rw [merged]
    exact ⟨listsOrdered list member, sublist_mergeLanes member⟩
  · rw [merged]
    exact mergeLanes_ordered listsOrdered
  · rw [merged]
    exact mergeLanes_perm _
  · rw [merged, mergeLanes_length]
    exact totalLength_of_lays_out layOut

/-- Losses at the earliest time, between records of one time and between records 4 ns apart. -/
def lossyLanes : List (List Record) :=
  [[⟨Int64.minValue, 0, 7, 1, 0, 3, []⟩, ⟨100, 0, 8, 2, 1, 0, []⟩, ⟨100, 0, 8, 1, 2, 5, []⟩],
   [⟨100, 1, 9, 1, 3, 0, []⟩, ⟨104, 1, 9, 1, 4, 2, []⟩]]

def lossyScript : Script := .ofLists lossyLanes none none

/-- A loader with a clock that stands still below 50 and a hook that rewrites pids. -/
def rewritingLoader : Loader JournalPlugin where
  stream := ⟨0, 0⟩
  clock := some (.custom Clock.clampLow [50])
  hooks := ⟨[⟨1, ⟨0, 0⟩, { serial := 0, label := "a", edit := .setPid 5 }⟩]⟩
  mask := View.all

theorem rewritingLoader_runs_forward (times : List Int64) : rewritingLoader.RunsForward times := by
  intro a _ b _ below
  change max a 50 ≤ max b 50
  obtain ⟨left, right⟩ := (max_le_iff_of_times b 50 (max b 50)).mp (Int64.le_refl _)
  exact (max_le_iff_of_times a 50 (max b 50)).mpr ⟨Int64.le_trans below left, right⟩

theorem run_keeps_every_record_of_lossyScript :
    ∃ loaded, (rewritingLoader.run lossyScript []).1.outcome = .ok loaded ∧
      isOrdered loaded.entries ∧ loaded.entries.length = 8 ∧
      (rewritingLoader.run lossyScript []).1.completed = 5 := by
  obtain ⟨after, delivers⟩ := Script.ofLists_delivers lossyLanes
  have hooks : ∀ hook ∈ rewritingLoader.hooks.hooks, hook.plugin.edit = .setPid 5 := by
    intro hook member
    rw [List.mem_singleton.mp member]
  have keepsTime : ∀ hook ∈ rewritingLoader.hooks.hooks, Plugin.Keeps hook.plugin Entry.ts :=
    fun hook member => JournalPlugin.keeps_of_setPid (hooks hook member) fun _ _ => rfl
  have whole : (rewritingLoader.IsCalm lossyLanes.flatten →
      ∃ loaded, (rewritingLoader.run lossyScript []).1.outcome = .ok loaded) ∧ _ :=
    run_keeps_every_record delivers (by decide)
      (fun lane _ => rewritingLoader_runs_forward (stamps lane)) keepsTime
  obtain ⟨succeeds, keeps⟩ := whole
  obtain ⟨loaded, ran⟩ := succeeds ⟨fun hook member => JournalPlugin.is_calm (by
    rw [hooks hook member]
    exact fun payload same => nomatch same), fun record _ => ⟨true, rfl⟩⟩
  obtain ⟨_, _, _, ordered, _, length, completed⟩ := keeps loaded ran
  exact ⟨loaded, ran, ordered, length.trans (by decide), completed.trans (by decide)⟩

end Loader

end KernelTrace
