import KernelTrace.Hook.Journal
import KernelTrace.Hook.Table
import KernelTrace.Proofs.Steps

namespace KernelTrace

variable {H σ : Type} [Plugin H σ]

namespace Plugin

/-- From some state of its own, the plugin turns the one entry into the other. -/
def Turns (plugin : H) (record : Record) (before after : Entry) : Prop :=
  ∃ host host' : σ, runFrom (Plugin.seeRecord plugin record before) host = (.ok after, host')

def Keeps {α : Type} (plugin : H) (part : Entry → α) : Prop :=
  ∀ record before after, Turns plugin record before after → part after = part before

/-- No call makes a loss marker out of another entry. -/
def MakesNoMarker (plugin : H) : Prop :=
  ∀ record before after, Turns plugin record before after → after.isLost → before.isLost

/-- What comes out depends on the record and the entry alone. -/
def IsFunction (plugin : H) : Prop :=
  ∀ record before (host other : σ),
    (runFrom (Plugin.seeRecord plugin record before) host).1 =
      (runFrom (Plugin.seeRecord plugin record before) other).1

def IsCalm (plugin : H) : Prop :=
  ∀ record before (host : σ),
    ∃ after, (runFrom (Plugin.seeRecord plugin record before) host).1 = .ok after

end Plugin

namespace HookTable

variable {record : Record} {hook : Hook H} {hooks : List (Hook H)} {before after : Entry}
  {host host' : σ} {fired : List (Hook H)}

theorem fire_cons_of_answers (answers : hook.answers before.stream before.eventId = true) :
    fire (σ := σ) record (hook :: hooks) before =
      Plugin.seeRecord hook.plugin record before >>= fun entry =>
        fire record hooks entry >>= fun (fired, entry) => pure (hook :: fired, entry) := by
  rw [fire, if_pos answers]

theorem fire_cons_of_passes (passes : hook.answers before.stream before.eventId = false) :
    fire (σ := σ) record (hook :: hooks) before = fire record hooks before := by
  rw [fire, if_neg (by simp [passes])]

theorem fire_cons_of_turns {turned : Entry} {middle : σ}
    (answers : hook.answers before.stream before.eventId = true)
    (seen : runFrom (Plugin.seeRecord hook.plugin record before) host = (.ok turned, middle)) :
    runFrom (fire record (hook :: hooks) before) host =
      ((runFrom (fire record hooks turned) middle).1.map
        fun (fired, after) => (hook :: fired, after),
        (runFrom (fire record hooks turned) middle).2) := by
  rw [fire_cons_of_answers answers, runFrom_bind_ok seen, ← runFrom_bind_pure]

theorem fire_cons_of_panics {panic : Panic}
    (answers : hook.answers before.stream before.eventId = true)
    (seen : runFrom (Plugin.seeRecord hook.plugin record before) host = (.error panic, host')) :
    runFrom (fire record (hook :: hooks) before) host = (.error panic, host') := by
  rw [fire_cons_of_answers answers, runFrom_bind_error seen]

theorem fire_hands_on (holds : Entry → Prop)
    (handsOn : ∀ hook ∈ hooks, ∀ before after,
      Plugin.Turns hook.plugin record before after → holds before → holds after)
    (ran : runFrom (fire record hooks before) host = (.ok (fired, after), host'))
    (start : holds before) : holds after := by
  induction hooks generalizing before host fired with
  | nil =>
      cases ran
      exact start
  | cons hook hooks ih =>
      have others : ∀ other ∈ hooks, ∀ before after,
          Plugin.Turns other.plugin record before after → holds before → holds after :=
        fun other member => handsOn other (List.mem_cons_of_mem hook member)
      cases answers : hook.answers before.stream before.eventId with
      | false =>
          rw [fire_cons_of_passes answers] at ran
          exact ih others ran start
      | true =>
          rw [fire_cons_of_answers answers] at ran
          obtain ⟨turned, middle, seen, rest⟩ := runFrom_bind_eq_ok ran
          obtain ⟨⟨restFired, left⟩, last, firedRest, final⟩ := runFrom_bind_eq_ok rest
          cases final
          have handed := handsOn hook List.mem_cons_self before turned ⟨host, middle, seen⟩ start
          exact ih others firedRest handed

theorem fire_keeps {α : Type} {part : Entry → α}
    (keeps : ∀ hook ∈ hooks, Plugin.Keeps hook.plugin part)
    (ran : runFrom (fire record hooks before) host = (.ok (fired, after), host')) :
    part after = part before := by
  refine fire_hands_on (fun entry => part entry = part before) ?_ ran rfl
  intro hook member first second turned same
  rw [keeps hook member record first second turned, same]

theorem fire_is_function (functions : ∀ hook ∈ hooks, Plugin.IsFunction hook.plugin)
    (before : Entry) (host other : σ) :
    (runFrom (fire record hooks before) host).1 = (runFrom (fire record hooks before) other).1 := by
  induction hooks generalizing before host other with
  | nil => rfl
  | cons hook hooks ih =>
      have others : ∀ other ∈ hooks, Plugin.IsFunction other.plugin :=
        fun other member => functions other (List.mem_cons_of_mem hook member)
      cases answers : hook.answers before.stream before.eventId with
      | false =>
          rw [fire_cons_of_passes answers]
          exact ih others before host other
      | true =>
          rw [fire_cons_of_answers answers, runFrom_bind, runFrom_bind]
          have same := functions hook List.mem_cons_self record before host other
          rcases here : runFrom (Plugin.seeRecord hook.plugin record before) host
            with ⟨outcome, middle⟩
          rcases there : runFrom (Plugin.seeRecord hook.plugin record before) other
            with ⟨twin, aside⟩
          rw [here, there] at same
          cases same
          cases outcome with
          | error panic => rfl
          | ok turned =>
              have rest := ih others turned middle aside
              simp only [runFrom_bind]
              rcases one : runFrom (fire record hooks turned) middle with ⟨first, _⟩
              rcases two : runFrom (fire record hooks turned) aside with ⟨second, _⟩
              rw [one, two] at rest
              cases rest
              cases first <;> rfl

theorem fire_calm (calm : ∀ hook ∈ hooks, Plugin.IsCalm hook.plugin) (before : Entry) (host : σ) :
    ∃ fired after host', runFrom (fire record hooks before) host = (.ok (fired, after), host') := by
  induction hooks generalizing before host with
  | nil => exact ⟨[], before, host, rfl⟩
  | cons hook hooks ih =>
      have others : ∀ other ∈ hooks, Plugin.IsCalm other.plugin :=
        fun other member => calm other (List.mem_cons_of_mem hook member)
      cases answers : hook.answers before.stream before.eventId with
      | false =>
          rw [fire_cons_of_passes answers]
          exact ih others before host
      | true =>
          obtain ⟨turned, outcome⟩ := calm hook List.mem_cons_self record before host
          obtain ⟨fired, after, last, rest⟩ := ih others turned
            (runFrom (Plugin.seeRecord hook.plugin record before) host).2
          refine ⟨hook :: fired, after, last, ?_⟩
          rw [fire_cons_of_answers answers, runFrom_bind_ok (Prod.ext outcome rfl),
            runFrom_bind_ok rest]
          rfl

end HookTable

namespace JournalPlugin

theorem note_run (plugin : JournalPlugin) (line : JournalLine) (journal : List JournalLine) :
    runFrom (plugin.note line) journal =
      (.ok (), if plugin.silent then journal else journal ++ [line]) := by
  rw [note]
  split <;> rfl

theorem seeRecord_run (plugin : JournalPlugin) (record : Record) (entry : Entry)
    (journal : List JournalLine) :
    runFrom (Plugin.seeRecord plugin record entry) journal =
      (plugin.edit.apply record entry,
        if plugin.silent then journal
        else journal ++ [.recorded plugin.label record.offset entry.eventId]) :=
  runFrom_bind_ok (plugin.note_run _ journal)

theorem seeRecord_outcome (plugin : JournalPlugin) (record : Record) (entry : Entry)
    (journal : List JournalLine) :
    (runFrom (Plugin.seeRecord plugin record entry) journal).1 =
      plugin.edit.apply record entry := by
  rw [seeRecord_run]

theorem turns_iff {plugin : JournalPlugin} {record : Record} {before after : Entry} :
    Plugin.Turns plugin record before after ↔ plugin.edit.apply record before = .ok after := by
  constructor
  · intro ⟨journal, written, ran⟩
    rw [← seeRecord_outcome plugin record before journal, ran]
  · intro applied
    exact ⟨[], _, Prod.ext ((seeRecord_outcome plugin record before []).trans applied) rfl⟩

theorem is_function (plugin : JournalPlugin) : Plugin.IsFunction plugin := by
  intro record before journal other
  rw [seeRecord_outcome, seeRecord_outcome]

theorem is_calm {plugin : JournalPlugin} (quiet : ∀ payload, plugin.edit ≠ .panics payload) :
    Plugin.IsCalm plugin := by
  intro record before journal
  rw [seeRecord_outcome]
  cases edit : plugin.edit with
  | panics payload => exact absurd edit (quiet payload)
  | nextPid =>
      simp only [Edit.apply]
      split <;> exact ⟨_, rfl⟩
  | _ => exact ⟨_, rfl⟩

theorem keeps_of_setPid {α : Type} {part : Entry → α} {plugin : JournalPlugin} {pid : Int32}
    (edit : plugin.edit = .setPid pid)
    (blind : ∀ (entry : Entry) (pid : Int32), part { entry with pid } = part entry) :
    Plugin.Keeps plugin part := by
  intro record before after turned
  rw [turns_iff, edit] at turned
  cases turned
  exact blind before pid

end JournalPlugin

end KernelTrace
