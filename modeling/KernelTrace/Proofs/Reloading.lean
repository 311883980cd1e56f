import KernelTrace.Proofs.Lanes
import KernelTrace.Proofs.Refilter

namespace KernelTrace

variable {H S σ : Type} [Plugin H σ]

/-- The plugins are functions of record and entry. They move no entry to another stream, leave its
visibility to the filters and make no loss markers. -/
structure HookTable.IsSteady (table : HookTable H) : Prop where
  functions : ∀ hook ∈ table.hooks, Plugin.IsFunction hook.plugin
  keepsStream : ∀ hook ∈ table.hooks, Plugin.Keeps hook.plugin Entry.stream
  keepsVisible : ∀ hook ∈ table.hooks, Plugin.Keeps hook.plugin Entry.visible
  makesNoMarker : ∀ hook ∈ table.hooks, Plugin.MakesNoMarker hook.plugin

namespace Loader

variable {loader : Loader H} {record : Record} {records : List Record}
  {lanes : List (List Record)} {host other after : σ} {entry : Entry}

theorem entry_is_function (functions : ∀ hook ∈ loader.hooks.hooks, Plugin.IsFunction hook.plugin)
    (record : Record) (host other : σ) :
    (runFrom (loader.entry record) host).1 = (runFrom (loader.entry record) other).1 := by
  have same : (runFrom (loader.hooks.dispatch record (loader.draft record)) host).1 =
      (runFrom (loader.hooks.dispatch record (loader.draft record)) other).1 :=
    HookTable.fire_is_function functions (loader.draft record) host other
  rw [Loader.entry, runFrom_bind, runFrom_bind]
  rcases here : runFrom (loader.hooks.dispatch record (loader.draft record)) host with ⟨first, _⟩
  rcases there : runFrom (loader.hooks.dispatch record (loader.draft record)) other
    with ⟨second, _⟩
  rw [here, there] at same
  cases same
  cases first with
  | error panic => rfl
  | ok left =>
      simp only [runFrom_bind, runFrom_mk_pure]
      cases loader.filters.admits record <;> rfl

theorem build_is_function (functions : ∀ hook ∈ loader.hooks.hooks, Plugin.IsFunction hook.plugin)
    (records : List Record) (host other : σ) :
    (loader.build records host).1 = (loader.build records other).1 := by
  induction records generalizing host other with
  | nil => rfl
  | cons record records ih =>
      have same := entry_is_function functions record host other
      unfold runFrom at same
      simp only [build]
      rcases here : (loader.entry record).run.run host with ⟨first, middle⟩
      rcases there : (loader.entry record).run.run other with ⟨second, aside⟩
      rw [here, there] at same
      cases same
      cases first with
      | error panic => rfl
      | ok entry => simp only [ih middle aside]

theorem buildLanes_is_function
    (functions : ∀ hook ∈ loader.hooks.hooks, Plugin.IsFunction hook.plugin)
    (lanes : List (List Record)) (host other : σ) :
    (loader.buildLanes lanes host).1 = (loader.buildLanes lanes other).1 := by
  induction lanes generalizing host other with
  | nil => rfl
  | cons lane lanes ih =>
      have same := build_is_function functions lane host other
      simp only [buildLanes]
      rcases here : loader.build lane host with ⟨first, middle⟩
      rcases there : loader.build lane other with ⟨second, aside⟩
      rw [here, there] at same
      cases same
      cases calm : first.panic with
      | some panic => rfl
      | none => simp only [ih middle aside]

def retune (loader : Loader H) (filters : Filters) (mask : UInt8) : Loader H :=
  { loader with filters, mask }

def NoneLost (records : List Record) : Prop := ∀ record ∈ records, record.eventId ≠ Entry.lostId

theorem unmarked_of_dispatch {fired : List (Hook H)} {left : Entry}
    (makesNoMarker : ∀ hook ∈ loader.hooks.hooks, Plugin.MakesNoMarker hook.plugin)
    (notLost : record.eventId ≠ Entry.lostId)
    (dispatched : runFrom (loader.hooks.dispatch record (loader.draft record)) host =
      (.ok (fired, left), after)) : ¬ left.isLost := by
  refine HookTable.fire_hands_on (fun entry => ¬ entry.isLost) ?_ dispatched ?_
  · intro hook member before after turned notLost lost
    exact notLost (makesNoMarker hook member record before after turned lost)
  · exact fun lost => notLost (of_decide_eq_true lost)

theorem whole_of_run [RecordSource S] {source : S} {loaded : LoadResult}
    (makesNoMarker : ∀ hook ∈ loader.hooks.hooks, Plugin.MakesNoMarker hook.plugin)
    (noneLost : ∀ lane ∈ (readAll source).1.lanes, NoneLost lane)
    (ran : (loader.run source host).1.outcome = .ok loaded) :
    ∀ entry ∈ loaded.entries, entry.isLost → entry.visible = View.all := by
  intro entry member lost
  rcases mem_run ran member with ⟨lane, read, record, given, makes⟩ | ⟨record, before, rfl⟩
  · obtain ⟨host, host', made⟩ := makes
    obtain ⟨fired, left, admitted, dispatched, _, rfl⟩ := entry_eq_ok made
    have notLost := noneLost lane read record given
    have unmarked := unmarked_of_dispatch makesNoMarker notLost dispatched
    exact absurd lost unmarked
  · rfl

section

variable {filters : Filters} {mask : UInt8} {fired : List (Hook H)} {left : Entry}

theorem finish_retune (clear : loader.mask &&& View.untouched = 0) (whole : left.visible = View.all)
    (notLost : left.isLost = false) (fired : List (Hook H)) (admitted : Bool) :
    (loader.retune filters mask).finish fired left true =
      filters.reapply mask (loader.finish fired left admitted) := by
  have notMarker : (loader.finish fired left admitted).isLost = false := notLost
  rw [Filters.reapply, if_neg (by simp [notMarker])]
  unfold finish
  simp only [retune]
  congr 1
  rw [Filters.restrict_eq_and]
  apply eq_of_bits
  intro i bound
  simp only [bitOf_and, bitOf_keepTouch bound, Filters.visibility]
  rw [Bool.and_comm]
  congr 1
  -- bit 7 is the one that tells whether a hook has fired; both ways of loading keep it
  by_cases last : i = 7
  · subst last
    rw [Filters.restrict_keeps_touch clear]
    simp
  · have apart : bitOf View.untouched i = false := by rw [bitOf_untouched bound]; simp [last]
    rw [whole]
    split <;> simp [last, bitOf_not bound, bitOf_all bound, apart]

variable (mask) (steady : loader.hooks.IsSteady) (clear : loader.mask &&& View.untouched = 0)
  (unread : filters.content = none)

include steady clear unread

theorem entry_retune (notLost : record.eventId ≠ Entry.lostId)
    (made : runFrom (loader.entry record) host = (.ok entry, after)) (other : σ) :
    (runFrom ((loader.retune filters mask).entry record) other).1 =
      .ok (filters.reapply mask entry) := by
  obtain ⟨fired, left, admitted, dispatched, _, rfl⟩ := entry_eq_ok made
  have whole : left.visible = View.all := HookTable.fire_keeps steady.keepsVisible dispatched
  have unmarked := unmarked_of_dispatch steady.makesNoMarker notLost dispatched
  have same : (runFrom (loader.hooks.dispatch record (loader.draft record)) other).1 =
      (runFrom (loader.hooks.dispatch record (loader.draft record)) host).1 :=
    HookTable.fire_is_function steady.functions (loader.draft record) other host
  rcases again : runFrom (loader.hooks.dispatch record (loader.draft record)) other
    with ⟨outcome, last⟩
  rw [dispatched, again] at same
  cases same
  have again : runFrom ((loader.retune filters mask).hooks.dispatch record
      ((loader.retune filters mask).draft record)) other = (.ok (fired, left), last) := again
  have admits : (loader.retune filters mask).filters.admits record = .ok true := by
    simp [retune, Filters.admits, unread]
  rw [entry_of_dispatch again admits, finish_retune clear whole (by simpa using unmarked)]

theorem build_retune (noneLost : NoneLost records)
    (calm : (loader.build records host).1.panic = none) (other : σ) :
    ((loader.retune filters mask).build records other).1 =
      ⟨(loader.build records host).1.made.map fun (record, entry) =>
        (record, filters.reapply mask entry), none⟩ := by
  induction records generalizing host other with
  | nil => rfl
  | cons record records ih =>
      rcases made : (loader.entry record).run.run host with ⟨outcome, middle⟩
      cases outcome with
      | error panic =>
          simp only [build, made] at calm
          cases calm
      | ok entry =>
          have notLost := noneLost record List.mem_cons_self
          have again := entry_retune mask steady clear unread notLost made other
          unfold runFrom at again
          rcases there : ((loader.retune filters mask).entry record).run.run other with ⟨_, aside⟩
          rw [there] at again
          cases again
          simp only [build, made] at calm ⊢
          have rest := ih (fun other member => noneLost other (List.mem_cons_of_mem _ member)) calm
            aside
          simp only [there, rest, List.map_cons]

theorem buildLanes_retune (noneLost : ∀ lane ∈ lanes, NoneLost lane)
    (calm : (loader.buildLanes lanes host).1.panic = none) (other : σ) :
    ((loader.retune filters mask).buildLanes lanes other).1 =
      ⟨(loader.buildLanes lanes host).1.made.map fun pairs => pairs.map fun (record, entry) =>
        (record, filters.reapply mask entry), none⟩ := by
  induction lanes generalizing host other with
  | nil => rfl
  | cons lane lanes ih =>
      cases first : (loader.build lane host).1.panic with
      | some panic =>
          simp only [buildLanes, first] at calm
          cases calm
      | none =>
          have again := build_retune mask steady clear unread
            (noneLost lane List.mem_cons_self) first other
          simp only [buildLanes, first] at calm ⊢
          have rest := ih (fun other member => noneLost other (List.mem_cons_of_mem _ member)) calm
            ((loader.retune filters mask).build lane other).2
          simp only [again, rest, List.map_cons]

end

variable [RecordSource S]

theorem run_is_function (functions : ∀ hook ∈ loader.hooks.hooks, Plugin.IsFunction hook.plugin)
    {source replayed : S} (same : (readAll replayed).1 = (readAll source).1) (host other : σ) :
    (loader.run replayed other).1 = (loader.run source host).1 := by
  have built := buildLanes_is_function functions (readAll source).1.lanes host other
  simp only [run, same, built]

theorem withMarkers_retune {filters : Filters} {mask : UInt8} (pairs : List (Record × Entry))
    (previous : Option Int64) :
    (loader.retune filters mask).withMarkers previous
        (pairs.map fun (record, entry) => (record, filters.reapply mask entry)) =
      (loader.withMarkers previous pairs).map (filters.reapply mask) := by
  induction pairs generalizing previous with
  | nil => rfl
  | cons pair pairs ih =>
      obtain ⟨record, entry⟩ := pair
      have onTime := filters.reapply_ts mask entry
      have marker : filters.reapply mask (loader.marker record previous) =
          (loader.retune filters mask).marker record previous := rfl
      simp only [List.map_cons, withMarkers, onTime, ih]
      split
      · rw [List.map_cons]
      · rw [List.map_cons, List.map_cons, marker]

/-- A load of the same records under other filters, none of which reads contents, gives the entries
of the first load with their visibility recomputed. -/
theorem run_retune {filters : Filters} {mask : UInt8} (steady : loader.hooks.IsSteady)
    (clear : loader.mask &&& View.untouched = 0) (unread : filters.content = none)
    {source replayed : S} (same : (readAll replayed).1 = (readAll source).1)
    (noneLost : ∀ lane ∈ (readAll source).1.lanes, NoneLost lane) {loaded : LoadResult}
    (ran : (loader.run source host).1.outcome = .ok loaded) (other : σ) :
    ∃ again, ((loader.retune filters mask).run replayed other).1.outcome = .ok again ∧
      again.entries = loaded.entries.map (filters.reapply mask) := by
  have delivers := delivers_of_run_ok ran
  obtain ⟨calm, merged⟩ := run_eq_ok delivers ran
  have sound : (readAll source).1 = ⟨(readAll source).1.lanes, none⟩ :=
    congrArg Prod.fst (readAll_eq_iff.mpr delivers)
  have replays : Delivers replayed (readAll source).1.lanes (readAll replayed).2 :=
    readAll_eq_iff.mp (Prod.ext (same.trans sound) rfl)
  have built := buildLanes_retune mask steady clear unread noneLost calm other
  have lists : (loader.retune filters mask).laneEntries (readAll source).1.lanes other =
      (loader.laneEntries (readAll source).1.lanes host).map (List.map (filters.reapply mask)) := by
    rw [laneEntries, laneEntries, built, List.map_map, List.map_map]
    apply List.map_congr_left
    intro pairs _
    exact withMarkers_retune pairs none
  rw [run_of_delivers replays, built]
  refine ⟨_, rfl, ?_⟩
  rw [merged, mergeLanes_map (filters.reapply_ts mask)]
  exact congrArg mergeLanes lists

end Loader

end KernelTrace
