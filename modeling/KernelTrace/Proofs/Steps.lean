import Mathlib.Data.List.Forall2
import Mathlib.Logic.Relation

namespace KernelTrace

variable {ε s α β : Type}

theorem map_eq_ok {outcome : Except ε α} {change : α → β} {result : β} :
    outcome.map change = .ok result ↔ ∃ value, outcome = .ok value ∧ change value = result := by
  cases outcome <;> simp [Except.map]

theorem map_eq_error {outcome : Except ε α} {change : α → β} {cause : ε} :
    outcome.map change = .error cause ↔ outcome = .error cause := by
  cases outcome <;> simp [Except.map]

theorem bind_eq_ok {outcome : Except ε α} {next : α → Except ε β} {result : β} :
    outcome >>= next = .ok result ↔ ∃ value, outcome = .ok value ∧ next value = .ok result := by
  cases outcome <;> simp [bind, Except.bind]

theorem mapM_eq_ok {step : α → Except ε β} {items : List α} {results : List β} :
    items.mapM step = .ok results ↔
      List.Forall₂ (fun item result => step item = .ok result) items results := by
  induction items generalizing results with
  | nil =>
      rw [List.mapM_nil, List.forall₂_nil_left_iff]
      exact ⟨fun same => by cases same; rfl, fun same => by rw [same]; rfl⟩
  | cons item items ih =>
      rw [List.mapM_cons, bind_eq_ok, List.forall₂_cons_left_iff]
      constructor
      · intro ⟨first, made, rest⟩
        obtain ⟨others, mapped, same⟩ := bind_eq_ok.mp rest
        cases same
        exact ⟨first, others, made, ih.mp mapped, rfl⟩
      · intro ⟨first, others, made, mapped, same⟩
        refine ⟨first, made, ?_⟩
        rw [bind_eq_ok, same]
        exact ⟨others, ih.mpr mapped, rfl⟩

theorem forM_eq_ok {step : α → Except ε Unit} {items : List α} :
    items.forM step = .ok () ↔ ∀ item ∈ items, step item = .ok () := by
  induction items with
  | nil => exact ⟨fun _ => List.forall_mem_nil _, fun _ => rfl⟩
  | cons item items ih =>
      rw [List.forM, bind_eq_ok, List.forall_mem_cons, ← ih]
      exact ⟨fun ⟨_, done, rest⟩ => ⟨done, rest⟩, fun ⟨done, rest⟩ => ⟨_, done, rest⟩⟩

theorem forM_eq_error {step : α → Except ε Unit} {items : List α} {cause : ε}
    (failed : items.forM step = .error cause) :
    ∃ done item rest, items = done ++ item :: rest ∧ (∀ other ∈ done, step other = .ok ()) ∧
      step item = .error cause := by
  induction items with
  | nil => cases failed
  | cons first others ih =>
      rw [List.forM] at failed
      cases here : step first with
      | error fault =>
          rw [here] at failed
          cases failed
          exact ⟨[], first, others, rfl, List.forall_mem_nil _, here⟩
      | ok =>
          rw [here] at failed
          obtain ⟨done, item, rest, same, passed, fails⟩ := ih failed
          exact ⟨first :: done, item, rest, by rw [same]; rfl,
            List.forall_mem_cons.mpr ⟨here, passed⟩, fails⟩

/-- The outcome of a step and the state that it leaves. -/
def runFrom (step : ExceptT ε (StateM s) α) (state : s) : Except ε α × s := step.run.run state

@[simp] theorem runFrom_mk (step : s → Except ε α × s) (state : s) :
    runFrom (ExceptT.mk step : ExceptT ε (StateM s) α) state = step state := rfl

@[simp] theorem runFrom_mk_pure (outcome : Except ε α) (state : s) :
    runFrom (ExceptT.mk (pure outcome) : ExceptT ε (StateM s) α) state = (outcome, state) := rfl

theorem runFrom_bind (step : ExceptT ε (StateM s) α) (next : α → ExceptT ε (StateM s) β)
    (state : s) :
    runFrom (step >>= next) state =
      match runFrom step state with
      | (.ok value, after) => runFrom (next value) after
      | (.error cause, after) => (.error cause, after) := by
  simp only [runFrom, ExceptT.run_bind, StateT.run_bind]
  cases step.run.run state with
  | mk outcome after => cases outcome <;> rfl

theorem runFrom_bind_ok {step : ExceptT ε (StateM s) α} {next : α → ExceptT ε (StateM s) β}
    {state after : s} {value : α} (ran : runFrom step state = (.ok value, after)) :
    runFrom (step >>= next) state = runFrom (next value) after := by
  rw [runFrom_bind, ran]

theorem runFrom_bind_error {step : ExceptT ε (StateM s) α} {next : α → ExceptT ε (StateM s) β}
    {state after : s} {cause : ε} (failed : runFrom step state = (.error cause, after)) :
    runFrom (step >>= next) state = (.error cause, after) := by
  rw [runFrom_bind, failed]

theorem runFrom_bind_congr {step : ExceptT ε (StateM s) α}
    {next other : α → ExceptT ε (StateM s) β} {state : s}
    (same : ∀ value after, runFrom step state = (.ok value, after) →
      runFrom (next value) after = runFrom (other value) after) :
    runFrom (step >>= next) state = runFrom (step >>= other) state := by
  rw [runFrom_bind, runFrom_bind]
  rcases ran : runFrom step state with ⟨cause | value, after⟩
  · rfl
  · exact same value after ran

theorem runFrom_bind_pure (step : ExceptT ε (StateM s) α) (change : α → β) (state : s) :
    runFrom (step >>= fun value => pure (change value)) state =
      ((runFrom step state).1.map change, (runFrom step state).2) := by
  rw [runFrom_bind]
  rcases runFrom step state with ⟨cause | value, after⟩ <;> rfl

def Succeeds (step : ExceptT ε (StateM s) α) (state : s) : Prop :=
  ∃ value, (runFrom step state).1 = .ok value

theorem succeeds_bind_pure (step : ExceptT ε (StateM s) α) (change : α → β) (state : s) :
    Succeeds (step >>= fun value => pure (change value)) state ↔ Succeeds step state := by
  rw [Succeeds, Succeeds, runFrom_bind_pure]
  cases (runFrom step state).1 <;> simp [Except.map]

theorem runFrom_bind_eq_ok {step : ExceptT ε (StateM s) α} {next : α → ExceptT ε (StateM s) β}
    {state final : s} {result : β} (ran : runFrom (step >>= next) state = (.ok result, final)) :
    ∃ value middle, runFrom step state = (.ok value, middle) ∧
      runFrom (next value) middle = (.ok result, final) := by
  rw [runFrom_bind] at ran
  cases first : runFrom step state with
  | mk outcome middle =>
      rw [first] at ran
      cases outcome with
      | error cause => cases ran
      | ok value => exact ⟨value, middle, rfl, ran⟩

theorem runFrom_bind_eq_error {step : ExceptT ε (StateM s) α}
    {next : α → ExceptT ε (StateM s) β} {state final : s} {cause : ε}
    (ran : runFrom (step >>= next) state = (.error cause, final)) :
    runFrom step state = (.error cause, final) ∨
      ∃ value middle, runFrom step state = (.ok value, middle) ∧
        runFrom (next value) middle = (.error cause, final) := by
  rw [runFrom_bind] at ran
  cases first : runFrom step state with
  | mk outcome middle =>
      rw [first] at ran
      cases outcome with
      | error fault =>
          cases ran
          exact .inl rfl
      | ok value => exact .inr ⟨value, middle, rfl, ran⟩

theorem foldlM_eq_error {step : β → α → ExceptT ε (StateM s) β} {items : List α} {start : β}
    {state final : s} {cause : ε}
    (ran : runFrom (items.foldlM step start) state = (.error cause, final)) :
    ∃ done item rest value middle, items = done ++ item :: rest ∧
      runFrom (done.foldlM step start) state = (.ok value, middle) ∧
      runFrom (step value item) middle = (.error cause, final) := by
  induction items generalizing start state with
  | nil => cases ran
  | cons first others ih =>
      rw [List.foldlM_cons] at ran
      rcases runFrom_bind_eq_error ran with failed | ⟨made, after, here, later⟩
      · exact ⟨[], first, others, start, state, rfl, rfl, failed⟩
      · obtain ⟨done, item, rest, value, middle, same, before, failed⟩ := ih later
        refine ⟨first :: done, item, rest, value, middle, by rw [same]; rfl, ?_, failed⟩
        rw [List.foldlM_cons, runFrom_bind_ok here, before]

/-- Whether it fails or not, the step takes this part of the state through such moves only. -/
def Follows {t : Type} (move : t → t → Prop) (part : s → t) (step : ExceptT ε (StateM s) α) :
    Prop :=
  ∀ state, Relation.ReflTransGen move (part state) (part (runFrom step state).2)

section

variable {t : Type} {move : t → t → Prop} {part : s → t}

theorem follows_pure (value : α) : Follows move part (pure value : ExceptT ε (StateM s) α) :=
  fun _ => .refl

theorem follows_bind {step : ExceptT ε (StateM s) α} {next : α → ExceptT ε (StateM s) β}
    (first : Follows move part step) (second : ∀ value, Follows move part (next value)) :
    Follows move part (step >>= next) := by
  intro state
  have before := first state
  rw [runFrom_bind]
  split
  · rename_i value middle ran
    rw [ran] at before
    exact before.trans (second value middle)
  · rename_i cause middle ran
    rwa [ran] at before

theorem follows_foldlM {step : β → α → ExceptT ε (StateM s) β} {items : List α}
    (each : ∀ value, ∀ item ∈ items, Follows move part (step value item)) (start : β) :
    Follows move part (items.foldlM step start) := by
  induction items generalizing start with
  | nil => exact follows_pure start
  | cons item items ih =>
      rw [List.foldlM_cons]
      apply follows_bind (each start item List.mem_cons_self)
      intro value
      exact ih (fun value other member => each value other (List.mem_cons_of_mem item member)) value

end

end KernelTrace
