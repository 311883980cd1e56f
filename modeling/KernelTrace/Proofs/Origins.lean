import KernelTrace.Proofs.Lanes
import KernelTrace.Proofs.Refilter

/-! Which record an entry is of. Plugins that leave its stream and offset alone and rewrites of its
visibility cannot hide that, nor whether a plugin has fired on it. -/

namespace KernelTrace

theorem Entry.isUntouched_eq (entry : Entry) : entry.isUntouched = bitOf entry.visible 7 := by
  rw [isUntouched, isVisible]
  cases bit : bitOf entry.visible 7 with
  | false => simp [clear_iff.mpr bit]
  | true => simpa [bit] using mt clear_iff.mp (a := entry.visible &&& View.untouched = 0)

/-- The entry points to this record, and has its ids unless a plugin has touched it. -/
structure Entry.IsOf (entry : Entry) (handle : Handle) (record : Record) : Prop where
  stream : entry.stream = handle
  offset : entry.offset = record.offset
  pid : entry.isUntouched → entry.pid = record.pid
  eventId : entry.isUntouched → entry.eventId = record.eventId

variable {H σ : Type} [Plugin H σ]

namespace HookTable

variable {record : Record} {hooks fired : List (Hook H)} {before after : Entry} {host host' : σ}

theorem fire_unanswered
    (unanswered : ∀ hook ∈ hooks, hook.answers before.stream before.eventId = false) (host : σ) :
    runFrom (fire record hooks before) host = (.ok ([], before), host) := by
  induction hooks with
  | nil => rfl
  | cons hook hooks ih =>
      obtain ⟨passes, others⟩ := List.forall_mem_cons.mp unanswered
      rw [fire_cons_of_passes passes, ih others]

theorem fired_eq_nil_iff
    (ran : runFrom (fire record hooks before) host = (.ok (fired, after), host')) :
    fired = [] ↔ ∀ hook ∈ hooks, hook.answers before.stream before.eventId = false := by
  constructor
  · rintro rfl
    induction hooks with
    | nil => exact List.forall_mem_nil _
    | cons hook hooks ih =>
        cases answers : hook.answers before.stream before.eventId with
        | false =>
            rw [fire_cons_of_passes answers] at ran
            exact List.forall_mem_cons.mpr ⟨answers, ih ran⟩
        | true =>
            rw [fire_cons_of_answers answers] at ran
            obtain ⟨_, _, _, rest⟩ := runFrom_bind_eq_ok ran
            obtain ⟨_, _, _, final⟩ := runFrom_bind_eq_ok rest
            cases final
  · intro unanswered
    rw [fire_unanswered unanswered] at ran
    cases ran
    rfl

end HookTable

namespace Loader

variable {loader : Loader H} {record : Record} {fired : List (Hook H)} {entry : Entry}

/-- From some state of the plugins, these hooks fire on the record and this entry comes out. -/
def Builds (loader : Loader H) (record : Record) (fired : List (Hook H)) (entry : Entry) : Prop :=
  ∃ (host host' : σ) (left : Entry) (admitted : Bool),
    runFrom (loader.hooks.dispatch record (loader.draft record)) host =
      (.ok (fired, left), host') ∧
    loader.filters.admits record = .ok admitted ∧ entry = loader.finish fired left admitted

theorem makes_iff_builds :
    loader.Makes record entry ↔ ∃ fired, loader.Builds record fired entry := by
  constructor
  · rintro ⟨host, host', made⟩
    obtain ⟨fired, left, admitted, dispatched, admits, same⟩ := entry_eq_ok made
    exact ⟨fired, host, host', left, admitted, dispatched, admits, same⟩
  · rintro ⟨fired, host, host', left, admitted, dispatched, admits, rfl⟩
    exact ⟨host, host', entry_of_dispatch dispatched admits⟩

namespace Builds

variable (builds : loader.Builds record fired entry)

include builds

theorem fired_eq_nil_iff :
    fired = [] ↔
      ∀ hook ∈ loader.hooks.hooks, hook.answers loader.stream record.eventId = false := by
  obtain ⟨_, _, _, _, dispatched, _⟩ := builds
  exact HookTable.fired_eq_nil_iff dispatched

theorem left_of_unfired (unfired : fired = []) :
    ∃ admitted, entry = loader.finish [] (loader.draft record) admitted := by
  obtain ⟨_, _, left, admitted, dispatched, _, rfl⟩ := builds
  have unanswered := (HookTable.fired_eq_nil_iff dispatched).mp unfired
  rw [HookTable.dispatch, HookTable.fire_unanswered unanswered] at dispatched
  cases dispatched
  exact ⟨admitted, rfl⟩

theorem isUntouched_iff (clear : loader.mask &&& View.untouched = 0) :
    entry.isUntouched ↔ fired = [] := by
  have top : bitOf (~~~View.untouched) 7 = false := rfl
  constructor
  · obtain ⟨_, _, left, admitted, _, _, rfl⟩ := builds
    intro untouched
    rw [Entry.isUntouched_eq, finish, Filters.restrict_keeps_touch clear] at untouched
    cases fired with
    | nil => rfl
    | cons hook fired => simp [top] at untouched
  · intro unfired
    obtain ⟨admitted, rfl⟩ := builds.left_of_unfired unfired
    rw [Entry.isUntouched_eq, finish, Filters.restrict_keeps_touch clear]
    exact bitOf_all (by decide)

theorem isOf (clear : loader.mask &&& View.untouched = 0)
    (keeps : ∀ hook ∈ loader.hooks.hooks,
      Plugin.Keeps hook.plugin Entry.stream ∧ Plugin.Keeps hook.plugin Entry.offset) :
    entry.IsOf loader.stream record where
  stream := makes_keeps (fun hook member => (keeps hook member).1) (fun _ _ => rfl)
    (makes_iff_builds.mpr ⟨fired, builds⟩)
  offset := makes_keeps (fun hook member => (keeps hook member).2) (fun _ _ => rfl)
    (makes_iff_builds.mpr ⟨fired, builds⟩)
  pid untouched := by
    obtain ⟨admitted, rfl⟩ := builds.left_of_unfired ((builds.isUntouched_iff clear).mp untouched)
    rfl
  eventId untouched := by
    obtain ⟨admitted, rfl⟩ := builds.left_of_unfired ((builds.isUntouched_iff clear).mp untouched)
    rfl

end Builds

end Loader

namespace Entry

variable {entry now : Entry} {handle : Handle} {record : Record}

theorem isUntouched_unfiltered (entry : Entry) :
    entry.unfiltered.isUntouched = entry.isUntouched := by
  rw [isUntouched_eq, isUntouched_eq, unfiltered, bitOf_keepTouch (by decide)]
  simp [bitOf_all]

theorem isUntouched_of_unfiltered (same : now.unfiltered = entry.unfiltered) :
    now.isUntouched = entry.isUntouched := by
  rw [← now.isUntouched_unfiltered, same, entry.isUntouched_unfiltered]

theorem IsOf.of_unfiltered (isOf : entry.IsOf handle record)
    (same : now.unfiltered = entry.unfiltered) : now.IsOf handle record := by
  have untouched := isUntouched_of_unfiltered same
  constructor
  case stream => exact (congrArg Entry.stream same).trans isOf.stream
  case offset => exact (congrArg Entry.offset same).trans isOf.offset
  case pid =>
    rw [untouched]
    exact fun still => (congrArg Entry.pid same).trans (isOf.pid still)
  case eventId =>
    rw [untouched]
    exact fun still => (congrArg Entry.eventId same).trans (isOf.eventId still)

end Entry

end KernelTrace
