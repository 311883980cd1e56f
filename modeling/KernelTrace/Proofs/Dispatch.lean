import KernelTrace.Proofs.Hooks
import Mathlib.Data.List.Induction

/-! Which hooks stand in a table after any calls of it, and which of them get to see a record. Each
hook has its turn in the order of registration, and answers to the entry as the hooks before it have
left it. -/

namespace KernelTrace

variable {H σ : Type}

namespace HookTable

inductive Change (H : Type)
  | add (hook : Hook H)
  | remove (hook : Hook H)
  | removeStream (stream : Handle)

variable [DecidableEq H] {changes : List (Change H)} {hook : Hook H}

def Change.drops : Change H → Hook H → Bool
  | add _, _ => false
  | remove named, hook => hook = named
  | removeStream stream, hook => hook.stream = stream

omit [DecidableEq H] in
def Change.added : Change H → List (Hook H)
  | add hook => [hook]
  | remove _ => []
  | removeStream _ => []

def change (table : HookTable H) : Change H → HookTable H
  | .add hook => table.add hook.eventId hook.stream hook.plugin
  | .remove hook => (table.remove hook.eventId hook.stream hook.plugin).2
  | .removeStream stream => table.removeStream stream

def ofChanges (changes : List (Change H)) : HookTable H := changes.foldl change {}

/-- The hooks that were added and not dropped since, as often and in the order as they were added. -/
def live : List (Change H) → List (Hook H)
  | [] => []
  | .add hook :: later => if later.any (·.drops hook) then live later else hook :: live later
  | _ :: later => live later

theorem hooks_change (table : HookTable H) (last : Change H) :
    (table.change last).hooks = table.hooks.filter (!last.drops ·) ++ last.added := by
  cases last with
  | add hook =>
      have kept : table.hooks.filter (fun _ => !false) = table.hooks :=
        List.filter_eq_self.mpr fun _ _ => rfl
      exact congrArg (· ++ [hook]) kept.symm
  | remove named =>
      rw [Change.added, List.append_nil]
      exact List.filter_congr fun hook _ => by simp [Change.drops]
  | removeStream stream =>
      rw [Change.added, List.append_nil]
      exact List.filter_congr fun hook _ => by simp [Change.drops]

theorem live_append_singleton (changes : List (Change H)) (last : Change H) :
    live (changes ++ [last]) = (live changes).filter (!last.drops ·) ++ last.added := by
  induction changes with
  | nil => cases last <;> rfl
  | cons first changes ih =>
      cases first with
      | add hook =>
          rw [List.cons_append, live, live, ih, List.any_append, List.any_cons, List.any_nil,
            Bool.or_false]
          cases dropped : changes.any (·.drops hook) with
          | true => rfl
          | false =>
              rw [Bool.false_or, if_neg Bool.false_ne_true]
              cases drops : last.drops hook <;> simp [drops]
      | remove named => exact ih
      | removeStream stream => exact ih

theorem hooks_ofChanges (changes : List (Change H)) :
    (ofChanges changes).hooks = live changes := by
  induction changes using List.reverseRecOn with
  | nil => rfl
  | append_singleton changes last ih =>
      rw [ofChanges, List.foldl_append, List.foldl_cons, List.foldl_nil, hooks_change,
        live_append_singleton, ← ih]
      rfl

theorem count_remove (table : HookTable H) (hook : Hook H) :
    (table.remove hook.eventId hook.stream hook.plugin).1 = table.hooks.count hook := by
  have parts : table.hooks.length = table.hooks.countP (· == hook) +
      table.hooks.countP fun other => ¬ (other == hook) = true :=
    List.length_eq_countP_add_countP _
  have kept : (table.hooks.filter (· ≠ hook)).length =
      table.hooks.countP fun other => ¬ (other == hook) = true := by
    rw [List.countP_eq_length_filter]
    simp
  rw [← kept] at parts
  exact Nat.sub_eq_of_eq_add parts

section

variable [Plugin H σ] {record : Record} {hooks : List (Hook H)} {hook : Hook H}
  {start met next : Entry × σ} {left : List (Entry × σ)}

omit [DecidableEq H]

theorem answers_iff {stream : Handle} {eventId : Int32} :
    hook.answers stream eventId = true ↔ hook.eventId = eventId ∧ hook.stream = stream := by
  simp [Hook.answers]

/-- What a hook leaves of the entry and of the state of the plugins that it meets. One that does not
answer leaves them alone. -/
def Leaves (record : Record) (hook : Hook H) (met after : Entry × σ) : Prop :=
  if hook.eventId = met.1.eventId ∧ hook.stream = met.1.stream then
    runFrom (Plugin.seeRecord hook.plugin record met.1) met.2 = (.ok after.1, after.2)
  else after = met

def Passes (record : Record) (hooks : List (Hook H)) (start : Entry × σ)
    (left : List (Entry × σ)) : Prop :=
  ∀ (place : Nat) (hook : Hook H) (met after : Entry × σ), hooks[place]? = some hook →
    (start :: left)[place]? = some met → left[place]? = some after → Leaves record hook met after

def called (hooks : List (Hook H)) (met : List (Entry × σ)) : List (Hook H) :=
  ((hooks.zip met).filter fun (hook, entry, _) =>
    hook.eventId = entry.eventId ∧ hook.stream = entry.stream).map Prod.fst

/-- The pass ends behind the last hook, or with the panic of a hook that it called. -/
def Ends (record : Record) (hooks : List (Hook H)) (start : Entry × σ)
    (left : List (Entry × σ)) : Except Panic (List (Hook H) × Entry) × σ → Prop
  | (.ok (fired, after), host) =>
    left.length = hooks.length ∧ left.getLastD start = (after, host) ∧
      fired = called hooks (start :: left)
  | (.error panic, host) =>
    ∃ hook met, hooks[left.length]? = some hook ∧ left.getLastD start = met ∧
      hook.eventId = met.1.eventId ∧ hook.stream = met.1.stream ∧
      runFrom (Plugin.seeRecord hook.plugin record met.1) met.2 = (.error panic, host)

omit [Plugin H σ] in
theorem called_cons (hook : Hook H) (hooks : List (Hook H)) (start : Entry × σ)
    (met : List (Entry × σ)) :
    called (hook :: hooks) (start :: met) =
      if hook.eventId = start.1.eventId ∧ hook.stream = start.1.stream then
        hook :: called hooks met
      else called hooks met := by
  rw [called, List.zip_cons_cons, List.filter_cons]
  by_cases answers : hook.eventId = start.1.eventId ∧ hook.stream = start.1.stream
  · simp [answers, called]
  · simp [answers, called]

omit [Plugin H σ] in
theorem called_sublist (hooks : List (Hook H)) (met : List (Entry × σ)) :
    (called hooks met).Sublist hooks := by
  induction hooks generalizing met with
  | nil => exact List.nil_sublist []
  | cons hook hooks ih =>
      cases met with
      | nil => exact List.nil_sublist (hook :: hooks)
      | cons start met =>
          rw [called_cons]
          split
          · exact (ih met).cons_cons hook
          · exact (ih met).cons hook

theorem passes_nil (record : Record) (hooks : List (Hook H)) (start : Entry × σ) :
    Passes record hooks start [] :=
  fun _ _ _ _ _ _ none => nomatch none

theorem passes_cons (first : Leaves record hook start next) (rest : Passes record hooks next left) :
    Passes record (hook :: hooks) start (next :: left) := by
  intro place other met after here meets leaves
  cases place with
  | zero =>
      cases here
      cases meets
      cases leaves
      exact first
  | succ place => exact rest place other met after here meets leaves

theorem ends_cons_of_passes {outcome : Except Panic (List (Hook H) × Entry) × σ}
    (passes : ¬ (hook.eventId = start.1.eventId ∧ hook.stream = start.1.stream))
    (ends : Ends record hooks start left outcome) :
    Ends record (hook :: hooks) start (start :: left) outcome := by
  rcases outcome with ⟨panic | ⟨fired, after⟩, host⟩
  · rwa [Ends, List.getLastD_cons]
  · obtain ⟨whole, last, rfl⟩ := ends
    rw [Ends, List.getLastD_cons, called_cons, if_neg passes]
    exact ⟨congrArg (· + 1) whole, last, rfl⟩

theorem ends_cons_of_answers {outcome : Except Panic (List (Hook H) × Entry) × σ}
    (answers : hook.eventId = start.1.eventId ∧ hook.stream = start.1.stream)
    (ends : Ends record hooks next left outcome) :
    Ends record (hook :: hooks) start (next :: left)
      (outcome.1.map fun (fired, after) => (hook :: fired, after), outcome.2) := by
  rcases outcome with ⟨panic | ⟨fired, after⟩, host⟩
  · rwa [Except.map, Ends, List.getLastD_cons]
  · obtain ⟨whole, last, rfl⟩ := ends
    rw [Except.map, Ends, List.getLastD_cons, called_cons, if_pos answers]
    exact ⟨congrArg (· + 1) whole, last, rfl⟩

theorem exists_passes (record : Record) (hooks : List (Hook H)) (entry : Entry) (host : σ) :
    ∃ left, Passes record hooks (entry, host) left ∧
      Ends record hooks (entry, host) left (runFrom (fire record hooks entry) host) := by
  -- on the hooks that still have their turn, for whatever those before them have left
  induction hooks generalizing entry host with
  | nil => exact ⟨[], passes_nil record [] _, rfl, rfl, rfl⟩
  | cons hook hooks ih =>
      cases answers : hook.answers entry.stream entry.eventId with
      | false =>
          have passed : ¬ (hook.eventId = entry.eventId ∧ hook.stream = entry.stream) := by
            rw [← answers_iff, answers]
            exact Bool.false_ne_true
          obtain ⟨left, passes, ends⟩ := ih entry host
          rw [fire_cons_of_passes answers]
          have leaves : Leaves record hook (entry, host) (entry, host) := (if_neg passed).mpr rfl
          exact ⟨_, passes_cons leaves passes, ends_cons_of_passes passed ends⟩
      | true =>
          have called := answers_iff.mp answers
          rcases seen : runFrom (Plugin.seeRecord hook.plugin record entry) host
            with ⟨panic | turned, middle⟩
          · rw [fire_cons_of_panics answers seen]
            exact ⟨[], passes_nil record _ _, hook, _, rfl, rfl, called.1, called.2, seen⟩
          · obtain ⟨left, passes, ends⟩ := ih turned middle
            have leaves : Leaves record hook (entry, host) (turned, middle) :=
              (if_pos called).mpr seen
            rw [fire_cons_of_turns answers seen]
            exact ⟨_, passes_cons leaves passes, ends_cons_of_answers called ends⟩

end

section

variable [Plugin H σ]

omit [DecidableEq H]

def callCounting (record : Record) : Nat × Entry → Hook H → Hosted σ (Nat × Entry)
  | (count, entry), hook =>
    if hook.answers entry.stream entry.eventId then do
      let entry ← Plugin.seeRecord hook.plugin record entry
      pure (count + 1, entry)
    else pure (count, entry)

def process (table : HookTable H) (record : Record) (entry : Entry) : Hosted σ (Nat × Entry) :=
  table.hooks.foldlM (callCounting record) (0, entry)

def drawCounting (stream : Handle) (eventId : Int32) (region : Region) (count : Nat)
    (hook : Hook H) : Hosted σ Nat :=
  if hook.answers stream eventId then do
    Plugin.seeRegion hook.plugin region
    pure (count + 1)
  else pure count

def drawEach (table : HookTable H) (stream : Handle) (eventId : Int32) (region : Region) :
    Hosted σ Nat :=
  table.hooks.foldlM (drawCounting stream eventId region) 0

variable {record : Record} {hooks : List (Hook H)}

theorem callCounting_fold (count : Nat) (entry : Entry) (host : σ) :
    runFrom (hooks.foldlM (callCounting record) (count, entry)) host =
      ((runFrom (fire record hooks entry) host).1.map
        fun (fired, after) => (count + fired.length, after),
        (runFrom (fire record hooks entry) host).2) := by
  induction hooks generalizing count entry host with
  | nil => rfl
  | cons hook hooks ih =>
      rw [List.foldlM_cons, callCounting]
      cases answers : hook.answers entry.stream entry.eventId with
      | false =>
          rw [fire_cons_of_passes answers, ← ih, if_neg Bool.false_ne_true]
          rfl
      | true =>
          rw [if_pos rfl]
          rcases seen : runFrom (Plugin.seeRecord hook.plugin record entry) host
            with ⟨panic | turned, middle⟩
          · rw [fire_cons_of_panics answers seen]
            exact runFrom_bind_error (runFrom_bind_error seen)
          · have counted : runFrom (Plugin.seeRecord hook.plugin record entry >>=
                fun entry => (pure (count + 1, entry) : Hosted σ _)) host =
                (.ok (count + 1, turned), middle) := runFrom_bind_ok seen
            rw [fire_cons_of_turns answers seen, runFrom_bind_ok counted, ih]
            rcases runFrom (fire record hooks turned) middle with ⟨panic | ⟨fired, after⟩, last⟩
            · rfl
            · simp [Except.map, Nat.add_comm, Nat.add_left_comm]

theorem process_counts (table : HookTable H) (record : Record) (entry : Entry) (host : σ) :
    runFrom (table.process record entry) host =
      ((runFrom (table.dispatch record entry) host).1.map
        fun (fired, after) => (fired.length, after),
        (runFrom (table.dispatch record entry) host).2) := by
  rw [process, callCounting_fold, dispatch]
  simp only [Nat.zero_add]

theorem drawCounting_fold {stream : Handle} {eventId : Int32} {region : Region} (count : Nat)
    (host : σ) :
    runFrom (hooks.foldlM (drawCounting stream eventId region) count) host =
      ((runFrom ((hooks.filter (·.answers stream eventId)).forM
        fun hook => Plugin.seeRegion hook.plugin region) host).1.map
          fun _ => count + (hooks.filter (·.answers stream eventId)).length,
        (runFrom ((hooks.filter (·.answers stream eventId)).forM
          fun hook => Plugin.seeRegion hook.plugin region) host).2) := by
  induction hooks generalizing count host with
  | nil => rfl
  | cons hook hooks ih =>
      rw [List.foldlM_cons, List.filter_cons, drawCounting]
      cases answers : hook.answers stream eventId with
      | false => exact ih count host
      | true =>
          rw [if_pos rfl, if_pos rfl, List.forM, List.length_cons]
          rcases seen : runFrom (Plugin.seeRegion hook.plugin region) host
            with ⟨panic | _, middle⟩
          · rw [runFrom_bind_error seen]
            exact runFrom_bind_error (runFrom_bind_error seen)
          · have counted : runFrom (Plugin.seeRegion hook.plugin region >>=
                fun _ => (pure (count + 1) : Hosted σ Nat)) host =
                (.ok (count + 1), middle) := runFrom_bind_ok seen
            rw [runFrom_bind_ok counted, runFrom_bind_ok seen, ih, Nat.add_right_comm,
              Nat.add_assoc]

theorem drawEach_eq_draw (table : HookTable H) (stream : Handle) (eventId : Int32)
    (region : Region) (host : σ) :
    runFrom (table.drawEach stream eventId region) host =
      runFrom (table.draw stream eventId region) host := by
  rw [drawEach, drawCounting_fold, draw, runFrom_bind_pure]
  simp only [Nat.zero_add]

end

/-- Whatever was done to a table, its hooks are the live ones in the order in which they were added.
Of these a record calls each that answers when its turn comes, and a region those that it names. -/
theorem hooks_fire_in_turn [Plugin H σ] (changes : List (Change H)) :
    (ofChanges changes).hooks = live changes ∧
    (∀ hook : Hook H, (ofChanges changes).remove hook.eventId hook.stream hook.plugin =
      ((live changes).count hook, ⟨(live changes).filter (· ≠ hook)⟩)) ∧
    (∀ record entry (host : σ), ∃ left,
      Passes record (live changes) (entry, host) left ∧
      Ends record (live changes) (entry, host) left
        (runFrom ((ofChanges changes).dispatch record entry) host) ∧
      (called (live changes) ((entry, host) :: left)).Sublist (live changes) ∧
      runFrom ((ofChanges changes).process record entry) host =
        ((runFrom ((ofChanges changes).dispatch record entry) host).1.map
          fun (fired, after) => (fired.length, after),
          (runFrom ((ofChanges changes).dispatch record entry) host).2)) ∧
    ∀ stream eventId region (host : σ),
      let named := (live changes).filter fun hook => hook.eventId = eventId ∧ hook.stream = stream
      runFrom ((ofChanges changes).drawEach stream eventId region) host =
        runFrom ((ofChanges changes).draw stream eventId region) host ∧
      runFrom ((ofChanges changes).draw stream eventId region) host =
        runFrom (do
          named.forM fun hook => Plugin.seeRegion hook.plugin region
          pure named.length) host := by
  have hooks : (ofChanges changes).hooks = live changes := hooks_ofChanges changes
  refine ⟨hooks, ?_, ?_, ?_⟩
  · intro hook
    rw [← hooks, ← count_remove]
    rfl
  · intro record entry host
    obtain ⟨left, passes, ends⟩ := exists_passes record (live changes) entry host
    rw [process_counts, dispatch, hooks]
    exact ⟨left, passes, ends, called_sublist _ _, rfl⟩
  · intro stream eventId region host named
    refine ⟨drawEach_eq_draw _ stream eventId region host, ?_⟩
    have same : named = (live changes).filter (·.answers stream eventId) :=
      List.filter_congr fun hook _ => by simp [Hook.answers]
    rw [draw, hooks, same]

example :
    let retyper (eventId next : Int32) : Hook JournalPlugin :=
      ⟨eventId, ⟨0, 0⟩, ⟨0, "retyper", .setEvent next, true⟩⟩
    let table : HookTable JournalPlugin := ⟨[retyper 1 2, retyper 2 1, retyper 2 3, retyper 1 2]⟩
    (runFrom (table.dispatch ⟨0, 0, 7, 1, 0, 0, []⟩ ⟨⟨0, 0⟩, 0, 7, 1, 0, 0, 0xFF⟩) []).1.map
      (fun (fired, entry) => (fired.map (·.eventId), entry.eventId)) = .ok ([1, 2, 1], 2) := by
  rfl

end HookTable

end KernelTrace
