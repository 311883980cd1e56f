import KernelTrace.Proofs.Indexes
import KernelTrace.Proofs.Refusals

namespace KernelTrace

variable {S H K σ : Type}

def Action.closes (session : Session S H K) : Action S H K → List Handle
  | .close handle => if handle ∈ session.handles then [handle] else []
  | .closeAll => session.handles.reverse
  | _ => []

namespace Session

open Registry (History closings)

variable {session after : Session S H K} {host : σ} {handle : Handle} {limit : Nat}
  {opened : List (Handle × Stream S)} {closed : List Handle}

theorem quietly_of_ok {change : Session S H K → Except Fault (Session S H K)}
    (changed : change session = .ok after) :
    runFrom (perform.quietly change) (session, host) = (.ok none, after, host) := by
  rw [perform.quietly, runFrom_bind, SessionStep.ofChange, runFrom_mk]
  simp only [changed]
  rfl

section

variable [RecordSource S]

theorem history_of_close (closed : session.close handle = .ok after) {ended : List Handle}
    (history : History limit session.streams opened ended) :
    ∃ opened, History limit after.streams opened (handle :: ended) := by
  obtain ⟨_, _, erased, rfl⟩ := close_eq_ok closed
  exact ⟨_, .erased history erased⟩

theorem history_of_foldlM {handles : List Handle}
    (closed : handles.foldlM close session = .ok after)
    {ended : List Handle} (history : History limit session.streams opened ended) :
    ∃ opened, History limit after.streams opened (handles.reverse ++ ended) := by
  induction handles generalizing session opened ended with
  | nil =>
      cases closed
      exact ⟨opened, history⟩
  | cons handle handles ih =>
      rw [List.foldlM_cons] at closed
      obtain ⟨middle, first, rest⟩ := bind_eq_ok.mp closed
      obtain ⟨_, next⟩ := history_of_close first history
      rw [List.reverse_cons, List.append_assoc]
      exact ih rest next

end

variable [RecordSource S] [Plugin H σ] [DecidableEq K] [Condition K] {action : Action S H K}

theorem history_of_moves (moves : Relation.ReflTransGen (Moves action) session after)
    (closesNone : action ≠ .closeAll ∧ ∀ handle, action ≠ .close handle)
    (history : History limit session.streams opened closed) :
    ∃ opened, History limit after.streams opened closed := by
  induction moves with
  | refl => exact ⟨opened, history⟩
  | tail _ move ih =>
      obtain ⟨_, history⟩ := ih
      rcases move.tends with ⟨handle, closes, _⟩ | tends
      · exact (closes.elim (closesNone.2 handle) closesNone.1).elim
      · exact tends.history history

variable [DecidableEq H]

/-- A session that callers can reach, with the handles that were closed on the way. -/
inductive Reached : Session S H K → List Handle → Prop
  | created {settings : Settings} {session : Session S H K} :
      Session.create settings = .ok session → Reached session []
  | acted {session : Session S H K} {closed : List Handle} {host : σ} (action : Action S H K) :
      Reached session closed →
      Reached (runFrom (perform action) (session, host)).2.1 (action.closes session ++ closed)

theorem reachable_iff_reached : Reachable session ↔ ∃ closed, Reached session closed := by
  constructor
  · intro reachable
    induction reachable with
    | created created => exact ⟨[], .created created⟩
    | acted action _ ih =>
        obtain ⟨closed, reached⟩ := ih
        exact ⟨_, .acted action reached⟩
  · intro ⟨closed, reached⟩
    induction reached with
    | created created => exact .created created
    | acted action _ ih => exact .acted action ih

theorem Reached.history (reached : Reached session closed) :
    ∃ limit opened, History limit session.streams opened closed := by
  induction reached with
  | created created =>
      obtain ⟨_, rfl⟩ := create_eq_ok created
      exact ⟨_, [], .created⟩
  | @acted session closed host action reached ih =>
      obtain ⟨limit, opened, history⟩ := ih
      have sound := (reachable_iff_reached.mpr ⟨closed, reached⟩).sound
      refine ⟨limit, ?_⟩
      cases action with
      | close handle =>
          cases made : session.close handle with
          | ok after =>
              have member := sound.close_eq_ok_iff.mp ⟨after, made⟩
              rw [perform, quietly_of_ok made, Action.closes, if_pos member]
              exact history_of_close made history
          | error fault =>
              have absent : handle ∉ session.handles := by
                intro member
                obtain ⟨after, closed⟩ := sound.close_eq_ok_iff.mpr member
                cases made.symm.trans closed
              rw [perform, quietly_of_error made, Action.closes, if_neg absent]
              exact ⟨opened, history⟩
      | closeAll =>
          obtain ⟨after, made⟩ := sound.closeAll_eq_ok
          rw [perform, quietly_of_ok made]
          exact history_of_foldlM made history
      | _ => exact history_of_moves (follows_perform _ (session, host)) (by simp) history

/-- Nothing registered outlives its stream, in any session that callers can reach, with these handles
closed on the way.

* Each collection and each hook belongs to an open stream.
* A stream can be closed just when it is open. That takes along its collections and its hooks, and
  leaves all others as they are, in their order.
* Closing all streams succeeds and leaves none, nor any collection or hook.
* A stream starts without filters, tasks, clock, collections and hooks, also in a slot that was used
  before. Its handle was never closed, unless its slot was given back as often as generations count.
* With the same reserve, a closed handle stays refused. -/
theorem Reached.nothing_outlives_its_stream (reached : Reached session closed) (handle : Handle) :
    session.Anchored ∧
    ((∃ after, session.close handle = .ok after) ↔ handle ∈ session.handles) ∧
    (∀ after, session.close handle = .ok after → session.ClosesOff handle after) ∧
    (∃ after, session.closeAll = .ok after ∧ after.handles = [] ∧
      after.collections.collections = [] ∧ after.hooks.hooks = []) ∧
    (∀ name source after, session.addSource name source = .ok (handle, after) →
      after.stream handle = .ok
        { handle, name, cpuCount := RecordSource.cpuCount source, source
          filters := {}, tasks := ∅, clock := none } ∧
      (∀ key ∈ after.collections.keys, key.stream ≠ handle) ∧
      (∀ hook ∈ after.hooks.hooks, hook.stream ≠ handle) ∧
      (closings closed handle.slot < UInt32.size → handle ∉ closed)) ∧
    (handle ∈ closed → closings closed handle.slot < UInt32.size →
      handle ∉ session.handles ∧ session.Refuses handle) := by
  have reachable := reachable_iff_reached.mpr ⟨closed, reached⟩
  have sound := reachable.sound
  have anchored := reachable.anchored
  obtain ⟨limit, opened, history⟩ := reached.history
  have tally := Registry.Tally.of_history history
  refine ⟨anchored, sound.close_eq_ok_iff, fun after => sound.closesOff, ?_, ?_, ?_⟩
  · obtain ⟨after, closed⟩ := sound.closeAll_eq_ok
    have none : after.handles = [] := by
      rw [sound.handles_of_foldlM closed, List.filter_eq_nil_iff]
      simp
    have later := anchored_of_moves (moves_of_closeAll closed) sound anchored
    exact ⟨after, closed, none, later.empty none⟩
  · intro name source after added
    obtain ⟨⟨fresh, streams⟩, inserted, made⟩ := map_eq_ok.mp added
    cases made
    have vacant : handle ∉ session.handles := by
      intro member
      obtain ⟨stream, found⟩ := sound.coherent.mem_handles.mp member
      cases (Registry.find?_before_insert inserted).symm.trans found
    refine ⟨?_, ?_, ?_, ?_⟩
    · exact (Registry.get_insert inserted handle).trans (if_pos rfl)
    · exact fun key member => ne_of_mem_of_not_mem (anchored.collections key member) vacant
    · exact fun hook member => ne_of_mem_of_not_mem (anchored.hooks hook member) vacant
    · exact fun rare => tally.not_mem_closed rare (Registry.insert_eq_ok inserted).2.1.symm
  · intro member rare
    have gone : handle ∉ session.handles := by
      intro held
      obtain ⟨stream, found⟩ := sound.coherent.mem_handles.mp held
      exact tally.not_mem_closed rare (Registry.givenBack_of_find? found) member
    exact ⟨gone, anchored.refuses sound gone⟩

/-- A stream with a hook and a collection is closed, and another is opened in its slot. -/
theorem slot_starts_anew :
    ∃ session : SampleSession, Reached session [⟨0, 0⟩] ∧
      (runFrom (perform (.load ⟨0, 0⟩)) (session, [])).1 = .error (.fault (.notOpen ⟨0, 0⟩)) ∧
      ∃ after, session.addSource "b" sampleStream.source = .ok (⟨0, 1⟩, after) ∧
        after.stream ⟨0, 1⟩ =
          .ok { handle := ⟨0, 1⟩, name := "b", cpuCount := 1, source := sampleStream.source } ∧
        ∀ hook ∈ after.hooks.hooks, hook.stream ≠ ⟨0, 1⟩ := by
  have acted : ∀ {session : SampleSession} {closed : List Handle} (action : Action _ _ _),
      Reached session closed →
        Reached (runFrom (perform action) (session, ([] : List JournalLine))).2.1
          (action.closes session ++ closed) :=
    fun action reached => .acted action reached
  have created : create {} =
      .ok ({ settings := {}, streams := { limit := 127 } } : SampleSession) := rfl
  have opened := acted (.addSource "a" sampleStream.source) (.created created)
  have hooked := acted (.addHook 1 ⟨0, 0⟩ { serial := 0, label := "a", edit := .setPid 5 }) opened
  have registered := acted (.addCollection sampleKey []) hooked
  have closed : Reached _ [⟨0, 0⟩] := acted (.close ⟨0, 0⟩) registered
  have member : (⟨0, 0⟩ : Handle) ∈ [(⟨0, 0⟩ : Handle)] := List.mem_singleton.mpr rfl
  obtain ⟨_, _, _, _, _, outlived⟩ := closed.nothing_outlives_its_stream ⟨0, 0⟩
  obtain ⟨_, failed⟩ := (outlived member (by decide)).2.needed [] (.load ⟨0, 0⟩) rfl
  obtain ⟨_, _, _, _, fresh, _⟩ := closed.nothing_outlives_its_stream ⟨0, 1⟩
  obtain ⟨found, _, unhooked, _⟩ := fresh "b" sampleStream.source _ rfl
  exact ⟨_, closed, congrArg Prod.fst failed, _, rfl, found, unhooked⟩

end Session

end KernelTrace
