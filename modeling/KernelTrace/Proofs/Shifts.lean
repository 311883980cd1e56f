import KernelTrace.Proofs.Lanes

/-! A clock that adds the same amount to all times moves a load in time, and changes nothing else. -/

namespace KernelTrace

/-- The times of a record that its trace's clock is applied to. -/
def Record.stamps (record : Record) : List Int64 :=
  if record.missed = 0 then [record.ts] else [backBy lossLead record.ts, record.ts]

theorem Record.ts_mem_stamps (record : Record) : record.ts ∈ record.stamps := by
  rw [stamps]
  split <;> simp

theorem Record.lead_mem_stamps {record : Record} (lossy : record.missed ≠ 0) :
    backBy lossLead record.ts ∈ record.stamps := by
  rw [stamps, if_neg lossy]
  exact List.mem_cons_self

namespace Clock

def Fits (shift ts : Int64) : Prop :=
  Int64.minValue.toInt ≤ ts.toInt + shift.toInt ∧ ts.toInt + shift.toInt ≤ Int64.maxValue.toInt

instance (shift ts : Int64) : Decidable (Fits shift ts) :=
  inferInstanceAs (Decidable (_ ∧ _))

variable {shift a b : Int64}

theorem Fits.toInt_add {shift ts : Int64} (fits : Fits shift ts) :
    (ts + shift).toInt = ts.toInt + shift.toInt := by
  have low := Int64.toInt_minValue
  have high := Int64.toInt_maxValue
  rw [Fits] at fits
  rw [Int64.toInt_add, Int.bmod_eq_of_le] <;> omega

theorem Fits.add_le_add_iff (first : Fits shift a) (second : Fits shift b) :
    a + shift ≤ b + shift ↔ a ≤ b := by
  rw [Int64.le_iff_toInt_le, Int64.le_iff_toInt_le, first.toInt_add, second.toInt_add]
  exact Int.add_le_add_iff_right shift.toInt

theorem Fits.add_le_add (first : Fits shift a) (second : Fits shift b) (below : a ≤ b) :
    a + shift ≤ b + shift :=
  (first.add_le_add_iff second).mpr below

theorem Fits.max_add (first : Fits shift a) (second : Fits shift b) :
    max (a + shift) (b + shift) = max a b + shift := by
  change (if a + shift ≤ b + shift then b + shift else a + shift) = (if a ≤ b then b else a) + shift
  by_cases below : a ≤ b
  · rw [if_pos below, if_pos (first.add_le_add second below)]
  · rw [if_neg below, if_neg (mt (first.add_le_add_iff second).mp below)]

theorem Fits.max (first : Fits shift a) (second : Fits shift b) : Fits shift (max a b) := by
  change Fits shift (if a ≤ b then b else a)
  split
  · exact second
  · exact first

end Clock

namespace Entry

def atTime (ts : Int64) (entry : Entry) : Entry := { entry with ts }

def shift (amount : Int64) (entry : Entry) : Entry := entry.atTime (entry.ts + amount)

end Entry

variable {H S σ : Type} [Plugin H σ]

/-- The plugin neither reads nor writes the time of an entry. At another time it does the same, and
what it leaves of the entry has that time. -/
def Plugin.IgnoresTime (plugin : H) : Prop :=
  ∀ record entry ts (host : σ),
    runFrom (Plugin.seeRecord plugin record (entry.atTime ts)) host =
      ((runFrom (Plugin.seeRecord plugin record entry) host).1.map (Entry.atTime ts),
        (runFrom (Plugin.seeRecord plugin record entry) host).2)

theorem Plugin.IgnoresTime.keeps {plugin : H} (ignores : Plugin.IgnoresTime plugin) :
    Plugin.Keeps plugin Entry.ts := by
  intro record before after ⟨host, host', ran⟩
  have same := ignores record before before.ts host
  rw [ran] at same
  have again := (Prod.mk.inj (ran.symm.trans same)).1
  rw [Except.ok.inj again]
  rfl

theorem HookTable.fire_atTime {hooks : List (Hook H)}
    (ignores : ∀ hook ∈ hooks, Plugin.IgnoresTime hook.plugin) (record : Record) (entry : Entry)
    (ts : Int64) (host : σ) :
    runFrom (fire record hooks (entry.atTime ts)) host =
      ((runFrom (fire record hooks entry) host).1.map fun (fired, left) => (fired, left.atTime ts),
        (runFrom (fire record hooks entry) host).2) := by
  induction hooks generalizing entry host with
  | nil => rfl
  | cons hook hooks ih =>
      have others : ∀ other ∈ hooks, Plugin.IgnoresTime other.plugin :=
        fun other member => ignores other (List.mem_cons_of_mem hook member)
      -- the time is not what a hook answers to, so the same hooks are called
      cases answers : hook.answers entry.stream entry.eventId with
      | false =>
          have passes : hook.answers (entry.atTime ts).stream (entry.atTime ts).eventId = false :=
            answers
          rw [fire_cons_of_passes passes, fire_cons_of_passes answers]
          exact ih others entry host
      | true =>
          have called : hook.answers (entry.atTime ts).stream (entry.atTime ts).eventId = true :=
            answers
          have same := ignores hook List.mem_cons_self record entry ts host
          rcases seen : runFrom (Plugin.seeRecord hook.plugin record entry) host
            with ⟨panic | turned, middle⟩
          · rw [seen] at same
            rw [fire_cons_of_panics called same, fire_cons_of_panics answers seen]
            rfl
          · rw [seen] at same
            rw [fire_cons_of_turns called same, fire_cons_of_turns answers seen, ih others]
            rcases runFrom (fire record hooks turned) middle with ⟨panic | _, last⟩ <;> rfl

theorem JournalPlugin.ignoresTime {plugin : JournalPlugin}
    (blind : ∀ shift, plugin.edit ≠ .shiftTime shift) : Plugin.IgnoresTime plugin := by
  intro record entry ts journal
  have edited : plugin.edit.apply record (entry.atTime ts) =
      (plugin.edit.apply record entry).map (Entry.atTime ts) := by
    cases edit : plugin.edit with
    | shiftTime shift => exact absurd edit (blind shift)
    | nextPid =>
        simp only [Edit.apply]
        split <;> rfl
    | _ => rfl
  rw [seeRecord_run, seeRecord_run, edited]
  rfl

def LoadReport.shift (amount : Int64) (report : LoadReport) : LoadReport :=
  { report with
    outcome := report.outcome.map fun loaded =>
      { loaded with entries := loaded.entries.map (Entry.shift amount) } }

namespace Loader

variable {loader : Loader H} {amount : Int64} {record : Record} {host after : σ}

def unclocked (loader : Loader H) : Loader H := { loader with clock := none }

def shifting (loader : Loader H) (amount : Int64) : Loader H :=
  { loader with clock := some (.offset amount) }

def shiftPairs (amount : Int64) (pairs : List (Record × Entry)) : List (Record × Entry) :=
  pairs.map fun (record, entry) => (record, entry.shift amount)

theorem length_shiftPairs (amount : Int64) (pairs : List (Record × Entry)) :
    (shiftPairs amount pairs).length = pairs.length :=
  List.length_map _

theorem pids_shiftPairs (amount : Int64) (pairs : List (Record × Entry)) :
    (shiftPairs amount pairs).map (·.2.pid) = pairs.map (·.2.pid) :=
  List.map_map

theorem flatten_shiftPairs (amount : Int64) (made : List (List (Record × Entry))) :
    (made.map (shiftPairs amount)).flatten = shiftPairs amount made.flatten :=
  List.map_flatten.symm

def OnTime (pairs : List (Record × Entry)) : Prop := ∀ pair ∈ pairs, pair.2.ts = pair.1.ts

/-- The records can be shifted without an overflow, and the losses before them. -/
def CanShift (amount : Int64) (records : List Record) : Prop :=
  ∀ record ∈ records, ∀ ts ∈ record.stamps, Clock.Fits amount ts

section

variable (ignores : ∀ hook ∈ loader.hooks.hooks, Plugin.IgnoresTime hook.plugin)

include ignores

theorem onTime_of_makes {entry : Entry} (makes : loader.unclocked.Makes record entry) :
    entry.ts = record.ts :=
  have keepsTime : ∀ hook ∈ loader.unclocked.hooks.hooks,
      Plugin.Keeps hook.plugin Entry.ts := fun hook member => (ignores hook member).keeps
  makes_keeps keepsTime (fun _ _ => rfl) makes

theorem dispatch_shifting (record : Record) (host : σ) :
    runFrom ((loader.shifting amount).hooks.dispatch record ((loader.shifting amount).draft record))
        host =
      ((runFrom (loader.unclocked.hooks.dispatch record (loader.unclocked.draft record)) host).1.map
        fun (fired, left) => (fired, left.atTime (record.ts + amount)),
        (runFrom (loader.unclocked.hooks.dispatch record (loader.unclocked.draft record)) host).2) :=
  HookTable.fire_atTime ignores record (loader.unclocked.draft record) (record.ts + amount) host

theorem entry_shifting (record : Record) (host : σ) :
    runFrom ((loader.shifting amount).entry record) host =
      ((runFrom (loader.unclocked.entry record) host).1.map (Entry.shift amount),
        (runFrom (loader.unclocked.entry record) host).2) := by
  rw [entry_run, entry_run, dispatch_shifting ignores]
  rcases dispatched : runFrom (loader.unclocked.hooks.dispatch record
    (loader.unclocked.draft record)) host with ⟨panic | ⟨fired, left⟩, after⟩
  · rfl
  · have onTime : left.ts = record.ts :=
      HookTable.fire_keeps (fun hook member => (ignores hook member).keeps) dispatched
    have finished : (loader.shifting amount).finish fired (left.atTime (record.ts + amount)) =
        fun admitted => (loader.unclocked.finish fired left admitted).shift amount := by
      rw [← onTime]
      rfl
    change (Except.map _ (loader.filters.admits record), after) =
      (Except.map _ (Except.map _ (loader.filters.admits record)), after)
    rw [finished]
    cases loader.filters.admits record <;> rfl

theorem build_shifting (records : List Record) (host : σ) :
    (loader.shifting amount).build records host =
      (⟨shiftPairs amount (loader.unclocked.build records host).1.made,
        (loader.unclocked.build records host).1.panic⟩,
        (loader.unclocked.build records host).2) := by
  induction records generalizing host with
  | nil => rfl
  | cons record records ih =>
      have shifted : ((loader.shifting amount).entry record).run.run host = _ :=
        entry_shifting ignores record host
      unfold runFrom at shifted
      simp only [build, shifted]
      rcases (loader.unclocked.entry record).run.run host with ⟨panic | entry, after⟩
      · rfl
      · simp only [Except.map, ih after]
        rfl

theorem buildLanes_shifting (lanes : List (List Record)) (host : σ) :
    (loader.shifting amount).buildLanes lanes host =
      (⟨(loader.unclocked.buildLanes lanes host).1.made.map (shiftPairs amount),
        (loader.unclocked.buildLanes lanes host).1.panic⟩,
        (loader.unclocked.buildLanes lanes host).2) := by
  induction lanes generalizing host with
  | nil => rfl
  | cons lane lanes ih =>
      simp only [buildLanes, build_shifting ignores lane host]
      cases (loader.unclocked.build lane host).1.panic with
      | some panic => rfl
      | none =>
          simp only [ih]
          rfl

end

theorem marker_shifting {previous : Option Int64}
    (led : Clock.Fits amount (backBy lossLead record.ts))
    (before : ∀ ts, previous = some ts → Clock.Fits amount ts) :
    (loader.shifting amount).marker record (previous.map (· + amount)) =
      (loader.unclocked.marker record previous).shift amount := by
  cases previous with
  | none => rfl
  | some ts =>
      have later : max (backBy lossLead record.ts + amount) (ts + amount) =
          max (backBy lossLead record.ts) ts + amount := led.max_add (before ts rfl)
      exact congrArg (fun time => (loader.unclocked.marker record none).atTime time) later

theorem fits_marker {previous : Option Int64}
    (led : Clock.Fits amount (backBy lossLead record.ts))
    (before : ∀ ts, previous = some ts → Clock.Fits amount ts) :
    Clock.Fits amount (loader.unclocked.marker record previous).ts := by
  cases previous with
  | none => exact led
  | some ts => exact led.max (before ts rfl)

theorem withMarkers_shifting {pairs : List (Record × Entry)} {previous : Option Int64}
    (onTime : OnTime pairs) (fits : CanShift amount (pairs.map Prod.fst))
    (before : ∀ ts, previous = some ts → Clock.Fits amount ts) :
    (loader.shifting amount).withMarkers (previous.map (· + amount)) (shiftPairs amount pairs) =
        (loader.unclocked.withMarkers previous pairs).map (Entry.shift amount) ∧
      ∀ entry ∈ loader.unclocked.withMarkers previous pairs, Clock.Fits amount entry.ts := by
  induction pairs generalizing previous with
  | nil => exact ⟨rfl, List.forall_mem_nil _⟩
  | cons pair pairs ih =>
      obtain ⟨record, entry⟩ := pair
      obtain ⟨here, others⟩ := List.forall_mem_cons.mp onTime
      obtain ⟨stamps, behind⟩ := List.forall_mem_cons.mp fits
      have entryFits : Clock.Fits amount entry.ts := by
        rw [here]
        exact stamps record.ts record.ts_mem_stamps
      -- the marker behind this entry may be set at its time, so that has to fit as well
      have entryBefore : ∀ ts, some entry.ts = some ts → Clock.Fits amount ts := by
        intro ts same
        rwa [← Option.some.inj same]
      obtain ⟨same, restFits⟩ := ih others behind entryBefore
      have shifted : (loader.shifting amount).withMarkers (some (entry.shift amount).ts)
          (shiftPairs amount pairs) =
            (loader.unclocked.withMarkers (some entry.ts) pairs).map (Entry.shift amount) := same
      rw [shiftPairs, List.map_cons, withMarkers, withMarkers]
      by_cases whole : record.missed = 0
      · rw [if_pos whole, if_pos whole]
        exact ⟨congrArg (entry.shift amount :: ·) shifted,
          List.forall_mem_cons.mpr ⟨entryFits, restFits⟩⟩
      · have led := stamps _ (Record.lead_mem_stamps whole)
        rw [if_neg whole, if_neg whole, marker_shifting led before]
        refine ⟨congrArg (_ :: entry.shift amount :: ·) shifted, ?_⟩
        exact List.forall_mem_cons.mpr
          ⟨fits_marker led before, List.forall_mem_cons.mpr ⟨entryFits, restFits⟩⟩

section

variable (ignores : ∀ hook ∈ loader.hooks.hooks, Plugin.IgnoresTime hook.plugin)

include ignores

theorem laneEntries_shifting {lanes : List (List Record)}
    (calm : (loader.unclocked.buildLanes lanes host).1.panic = none)
    (fits : ∀ lane ∈ lanes, CanShift amount lane) :
    (loader.shifting amount).laneEntries lanes host =
        (loader.unclocked.laneEntries lanes host).map (List.map (Entry.shift amount)) ∧
      ∀ list ∈ loader.unclocked.laneEntries lanes host, ∀ entry ∈ list,
        Clock.Fits amount entry.ts := by
  have marked : ∀ pairs ∈ (loader.unclocked.buildLanes lanes host).1.made,
      (loader.shifting amount).withMarkers none (shiftPairs amount pairs) =
          (loader.unclocked.withMarkers none pairs).map (Entry.shift amount) ∧
        ∀ entry ∈ loader.unclocked.withMarkers none pairs, Clock.Fits amount entry.ts := by
    intro pairs member
    obtain ⟨lane, given, rfl, makes⟩ := exists_pairs_up (buildLanes_pairs_up calm) member
    have onTime : OnTime pairs :=
      fun pair inside => onTime_of_makes ignores (makes pair inside)
    have fresh : ∀ ts, (none : Option Int64) = some ts → Clock.Fits amount ts :=
      fun ts absent => nomatch absent
    exact withMarkers_shifting onTime (fits _ given) fresh
  constructor
  · rw [laneEntries, buildLanes_shifting ignores, laneEntries, List.map_map, List.map_map]
    exact List.map_congr_left fun pairs member => (marked pairs member).1
  · intro list listed
    obtain ⟨pairs, member, rfl⟩ := List.mem_map.mp listed
    exact (marked pairs member).2

omit ignores in
theorem mergeLanes_shifted {lists : List (List Entry)}
    (fits : ∀ list ∈ lists, ∀ entry ∈ list, Clock.Fits amount entry.ts) :
    mergeLanes (lists.map (List.map (Entry.shift amount))) =
      (mergeLanes lists).map (Entry.shift amount) := by
  have inside : ∀ entry ∈ lists.flatten, Clock.Fits amount entry.ts := by
    intro entry member
    obtain ⟨list, listed, here⟩ := List.mem_flatten.mp member
    exact fits list listed entry here
  refine (mergeLanes_map_of_le_iff fun x first y second => ?_).symm
  exact (inside x first).add_le_add_iff (inside y second)

/-- A clock that only adds an amount only moves a load in time: what the load reports without a
clock it reports with this one, each entry and each loss marker by the amount later and no different
otherwise, in the same order and with the same tasks, as long as no time overflows and the hooks
have nothing to do with times. The records of a CPU may stand in any order. -/
theorem run_shifting [RecordSource S] {source : S}
    (fits : ∀ lane ∈ (readAll source).1.lanes, CanShift amount lane) (host : σ) :
    (loader.shifting amount).run source host =
        ((loader.unclocked.run source host).1.shift amount,
          (loader.unclocked.run source host).2) ∧
      ∀ loaded, (loader.unclocked.run source host).1.outcome = .ok loaded →
        ∀ entry ∈ loaded.entries,
          (entry.shift amount).ts.toInt = entry.ts.toInt + amount.toInt := by
  have built : (loader.shifting amount).buildLanes (readAll source).1.lanes host = _ :=
    buildLanes_shifting ignores (readAll source).1.lanes host
  constructor
  · simp only [run, built, flatten_shiftPairs, length_shiftPairs, pids_shiftPairs]
    cases panic : (loader.unclocked.buildLanes (readAll source).1.lanes host).1.panic with
    | some cause => rfl
    | none =>
        cases fault : (readAll source).1.fault with
        | some cause => rfl
        | none =>
            obtain ⟨lists, fitting⟩ := laneEntries_shifting ignores panic fits
            rw [laneEntries, built] at lists
            rw [lists, mergeLanes_shifted fitting]
            rfl
  · intro loaded ran entry member
    obtain ⟨calm, merged⟩ := run_eq_ok (delivers_of_run_ok ran) ran
    obtain ⟨_, fitting⟩ := laneEntries_shifting ignores calm fits
    rw [merged, mem_mergeLanes] at member
    obtain ⟨list, listed, here⟩ := member
    exact (fitting list listed entry here).toInt_add

end

theorem run_shifting_lossyScript :
    ∃ loaded, (rewritingLoader.unclocked.run lossyScript []).1.outcome = .ok loaded ∧
      loaded.entries.length = 8 ∧
      ((rewritingLoader.shifting 1000).run lossyScript []).1.outcome =
        .ok { loaded with entries := loaded.entries.map (Entry.shift 1000) } ∧
      ∀ entry ∈ loaded.entries, (entry.shift 1000).ts.toInt = entry.ts.toInt + 1000 := by
  obtain ⟨after, delivers⟩ := Script.ofLists_delivers lossyLanes
  have read : (readAll lossyScript).1.lanes = lossyLanes := by
    rw [lossyScript, readAll_eq_iff.mpr delivers]
  have hooks : ∀ hook ∈ rewritingLoader.hooks.hooks, hook.plugin.edit = .setPid 5 := by
    intro hook member
    rw [List.mem_singleton.mp member]
  have ignores : ∀ hook ∈ rewritingLoader.hooks.hooks, Plugin.IgnoresTime hook.plugin := by
    intro hook member
    apply JournalPlugin.ignoresTime
    rw [hooks hook member]
    exact fun shift same => nomatch same
  have fits : ∀ lane ∈ (readAll lossyScript).1.lanes, CanShift 1000 lane := by
    -- tested as a list: a quantifier over times may be decided by going through all of them
    have fitting : lossyLanes.all (·.all (·.stamps.all (Clock.Fits 1000 ·))) := by decide
    simp only [List.all_eq_true, decide_eq_true_eq] at fitting
    rwa [read]
  have calm : rewritingLoader.unclocked.IsCalm lossyLanes.flatten := by
    refine ⟨fun hook member => JournalPlugin.is_calm ?_, fun record _ => ⟨true, rfl⟩⟩
    rw [hooks hook member]
    exact fun payload same => nomatch same
  obtain ⟨same, later⟩ := run_shifting ignores fits []
  obtain ⟨loaded, ran⟩ : ∃ loaded, (rewritingLoader.unclocked.run lossyScript []).1.outcome =
      .ok loaded := run_calm delivers calm
  obtain ⟨_, merged⟩ := run_eq_ok delivers ran
  refine ⟨loaded, ran, ?_, ?_, later loaded ran⟩
  · rw [merged, mergeLanes_length]
    rfl
  · rw [same, LoadReport.shift, ran]
    rfl

end Loader

end KernelTrace
