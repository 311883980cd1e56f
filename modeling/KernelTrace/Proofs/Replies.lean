import KernelTrace.Proofs.Actions

namespace KernelTrace

variable {S H K σ : Type}

inductive Reply
  | done
  | opened (handle : Handle)
  | counted (count : Nat)
  | found (position : Option Nat)
  | listed (entries : List Entry)
  | reread (record : Record)
  | numbered (number : Int32)
  | printed (line : String)
  deriving DecidableEq, Repr

def Reply.list? : Reply → Option (List Entry)
  | listed entries => some entries
  | _ => none

@[simp] theorem Reply.list?_counted (count : Nat) : (counted count).list? = none := rfl

namespace Session

section

variable [RecordSource S] [Plugin H σ] [DecidableEq H] [DecidableEq K] [Condition K]

def answer : Action S H K → SessionStep S H K σ Reply
  | .setFilterMask filterMask => silently (·.setFilterMask filterMask)
  | .openTrace path opened => telling .opened (·.openTrace path opened)
  | .addSource name source => telling .opened (·.addSource name source)
  | .close handle => silently (·.close handle)
  | .closeAll => silently closeAll
  | .addFilter handle rule => silently (·.addFilter handle rule)
  | .clearFilter handle subject side => silently (·.clearFilter handle subject side)
  | .setContentTest handle test => silently (·.setContentTest handle test)
  | .clearContentTest handle => silently (·.clearContentTest handle)
  | .setClock handle clock => silently (·.setClock handle clock)
  | .clearClock handle => silently (·.clearClock handle)
  | .addHook eventId handle plugin => silently (·.addHook eventId handle plugin)
  | .removeHook eventId handle plugin =>
    telling .counted fun session => .ok (session.removeHook eventId handle plugin)
  | .draw eventId region => do
    pure (.counted (← SessionStep.ofHosted fun session => session.draw eventId region))
  | .load handle => do pure (.listed (← load handle))
  | .loadAll => do pure (.listed (← loadAll))
  | .append prior handle clock => do pure (.listed (← append prior handle clock))
  | .refilter handle entries => telling .listed (·.refilter handle entries)
  | .refilterAll entries => telling .listed (·.refilterAll entries)
  | .clearFilters entries => telling .listed fun session => .ok (session.clearFilters entries)
  | .recordAt handle offset => rereading .reread (recordAt handle offset)
  | .pidOf entry => rereading .numbered (pidOf entry)
  | .eventIdOf entry => rereading .numbered (eventIdOf entry)
  | .entryLine entry => rereading .printed (entryLine entry)
  | .addCollection key entries => silently (·.addCollection key entries)
  | .removeCollection key => silently (·.removeCollection key)
  | .resetCollection key => silently (·.resetCollection key)
  | .dropDense => telling .counted fun session => .ok session.dropDense
  | .firstFrom key entries window => telling .found (·.firstFrom key entries window)
  | .lastUpTo key entries window => telling .found (·.lastUpTo key entries window)
where
  silently (change : Session S H K → Except Fault (Session S H K)) : SessionStep S H K σ Reply := do
    SessionStep.ofChange change
    pure .done
  telling {α : Type} (reply : α → Reply)
      (change : Session S H K → Except Fault (α × Session S H K)) : SessionStep S H K σ Reply := do
    pure (reply (← SessionStep.ofAnswer change))
  rereading {α : Type} (reply : α → Reply) (step : ReadStep S H K α) :
      SessionStep S H K σ Reply := do
    pure (reply (← SessionStep.ofRead step))

def answers : List (Action S H K) → Session S H K × σ →
    List (Except Failure Reply) × Session S H K × σ
  | [], state => ([], state)
  | action :: actions, state =>
    let (reply, state) := runFrom (answer action) state
    let (replies, state) := answers actions state
    (reply :: replies, state)

end

section

variable {α : Type} (state : Session S H K × σ)

theorem quietly_eq_silently (change : Session S H K → Except Fault (Session S H K)) :
    runFrom (perform.quietly change) state =
      ((runFrom (answer.silently change) state).1.map Reply.list?,
        (runFrom (answer.silently change) state).2) := by
  rw [perform.quietly, answer.silently, runFrom_bind_pure _ fun _ => none,
    runFrom_bind_pure _ fun _ => Reply.done]
  rcases runFrom (SessionStep.ofChange change) state with ⟨_ | _, after⟩ <;> rfl

theorem quietly_eq_telling {reply : α → Reply} (listless : ∀ answer, (reply answer).list? = none)
    (change : Session S H K → Except Fault (α × Session S H K)) :
    runFrom (perform.quietly fun session => (change session).map (·.2)) state =
      ((runFrom (answer.telling reply change) state).1.map Reply.list?,
        (runFrom (answer.telling reply change) state).2) := by
  obtain ⟨session, host⟩ := state
  rw [perform.quietly, answer.telling, runFrom_bind_pure _ fun _ => none, runFrom_bind_pure,
    SessionStep.ofChange, SessionStep.ofAnswer, runFrom_mk, runFrom_mk]
  dsimp only
  rcases change session with fault | ⟨answer, after⟩
  · rfl
  · simp only [Except.map, listless]

theorem answering_eq_telling
    (change : Session S H K → Except Fault (List Entry × Session S H K)) :
    runFrom (perform.answering change) state =
      ((runFrom (answer.telling .listed change) state).1.map Reply.list?,
        (runFrom (answer.telling .listed change) state).2) := by
  rw [perform.answering, answer.telling, runFrom_bind_pure, runFrom_bind_pure]
  rcases runFrom (SessionStep.ofAnswer change) state with ⟨failure | entries, after⟩ <;> rfl

theorem reading_eq_rereading {reply : α → Reply} (listless : ∀ answer, (reply answer).list? = none)
    (step : ReadStep S H K α) :
    runFrom (perform.reading step) state =
      ((runFrom (answer.rereading reply step) state).1.map Reply.list?,
        (runFrom (answer.rereading reply step) state).2) := by
  rw [perform.reading, answer.rereading, runFrom_bind_pure _ fun _ => none, runFrom_bind_pure]
  rcases runFrom (SessionStep.ofRead step) state with ⟨failure | answer, after⟩
  · rfl
  · simp only [Except.map, listless]

theorem listing_eq (step : SessionStep S H K σ (List Entry)) :
    runFrom (do pure (some (← step))) state =
      ((runFrom (do pure (Reply.listed (← step))) state).1.map Reply.list?,
        (runFrom (do pure (Reply.listed (← step))) state).2) := by
  rw [runFrom_bind_pure, runFrom_bind_pure]
  rcases runFrom step state with ⟨failure | entries, after⟩ <;> rfl

end

variable [RecordSource S] [Plugin H σ] [DecidableEq H] [DecidableEq K] [Condition K]

theorem runFrom_perform (action : Action S H K) (state : Session S H K × σ) :
    runFrom (perform action) state =
      ((runFrom (answer action) state).1.map Reply.list?, (runFrom (answer action) state).2) := by
  cases action with
  | openTrace | addSource | firstFrom | lastUpTo => exact quietly_eq_telling state (fun _ => rfl) _
  | removeHook eventId handle plugin =>
      exact quietly_eq_telling state Reply.list?_counted fun session =>
        .ok (session.removeHook eventId handle plugin)
  | dropDense =>
      exact quietly_eq_telling state Reply.list?_counted fun session => .ok session.dropDense
  | draw eventId region =>
      rw [perform, answer, runFrom_bind_pure _ fun _ => none, runFrom_bind_pure]
      rcases runFrom (SessionStep.ofHosted fun session => session.draw eventId region) state with
        ⟨failure | count, after⟩ <;> rfl
  | load | loadAll | append => exact listing_eq state _
  | refilter | refilterAll | clearFilters => exact answering_eq_telling state _
  | recordAt | pidOf | eventIdOf | entryLine => exact reading_eq_rereading state (fun _ => rfl) _
  | _ => exact quietly_eq_silently state _

end Session

end KernelTrace
