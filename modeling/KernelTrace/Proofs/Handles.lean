import KernelTrace.Proofs.Slots
import KernelTrace.Trace.Script
import Mathlib.Data.List.Perm.Basic

/-! Handles never alias. However streams are opened, changed and closed, a handle finds the stream
that was inserted under it until that stream is removed, and never again after that. -/

namespace KernelTrace.Registry

variable {S : Type} {registry after : Registry S} {handle other : Handle} {stream : Stream S}
  {change : Stream S → Stream S} {limit : Nat} {opened : List (Handle × Stream S)}
  {closed : List Handle}

def closings (closed : List Handle) (slot : UInt16) : Nat := closed.countP (·.slot = slot)

def changeAt (handle : Handle) (change : Stream S → Stream S) (held : Handle × Stream S) :
    Handle × Stream S :=
  if held.1 = handle then (held.1, change held.2) else held

/-- The registry finds exactly the streams that are open, and each slot has counted the handles of it
that were closed. -/
structure Tally (limit : Nat) (registry : Registry S) (opened : List (Handle × Stream S))
    (closed : List Handle) : Prop where
  coherent : registry.Coherent
  limit : registry.limit = limit
  fits : registry.slots.length ≤ registry.limit
  distinct : (opened.map Prod.fst).Nodup
  finds : ∀ handle stream, (handle, stream) ∈ opened ↔ registry.find? handle = some stream
  counts : ∀ slot : UInt16, registry.givenBack slot.toNat = UInt32.ofNat (closings closed slot)
  past : ∀ handle ∈ closed, handle.generation.toNat < closings closed handle.slot

namespace Tally

theorem created (limit : Nat) : Tally limit ({ limit } : Registry S) [] [] where
  coherent := coherent_empty limit
  limit := rfl
  fits := Nat.zero_le limit
  distinct := .nil
  finds handle stream := by simp [find?]
  counts slot := by simp [givenBack, closings]
  past := by simp

theorem mem_handles (tally : Tally limit registry opened closed) :
    handle ∈ opened.map Prod.fst ↔ ∃ stream, registry.find? handle = some stream := by
  simp [tally.finds]

theorem grown (tally : Tally limit registry opened closed) :
    Tally limit registry.grown opened closed where
  coherent := tally.coherent.grown
  limit := (grown_fits tally.fits).1.trans tally.limit
  fits := by
    obtain ⟨sameLimit, fits⟩ := grown_fits tally.fits
    rwa [sameLimit]
  distinct := tally.distinct
  finds handle stream := by rw [find?_grown, tally.finds]
  counts slot := by rw [givenBack_grown, tally.counts]
  past := tally.past

theorem changed (tally : Tally limit registry opened closed)
    (keeps : ∀ stream, (change stream).handle = stream.handle) :
    Tally limit (registry.modify handle change) (opened.map (changeAt handle change)) closed where
  coherent := tally.coherent.modify keeps
  limit := (limit_modify change).trans tally.limit
  fits := by
    have same : (registry.modify handle change).generations = registry.generations :=
      generations_modify change
    have counts := congrArg List.length same
    simp only [generations, List.length_map] at counts
    rw [limit_modify, counts]
    exact tally.fits
  distinct := by
    have first : Prod.fst ∘ changeAt handle change = Prod.fst := by
      funext held
      unfold changeAt
      simp only [Function.comp_apply]
      split <;> rfl
    rw [List.map_map, first]
    exact tally.distinct
  finds other stream := by
    have held : (other, stream) ∈ opened.map (changeAt handle change) ↔
        ∃ before, (other, before) ∈ opened ∧
          stream = if other = handle then change before else before := by
      simp only [List.mem_map, Prod.exists, changeAt]
      grind
    simp only [held, tally.finds]
    by_cases same : other = handle
    · subst same
      rw [find?_modify, Option.map_eq_some_iff]
      simp [eq_comm]
    · simp [find?_modify_of_ne same, same]
  counts slot := by
    rw [givenBack_of_generations (generations_modify change), tally.counts]
  past := tally.past

theorem changedAll (tally : Tally limit registry opened closed)
    (keeps : ∀ stream, (change stream).handle = stream.handle) :
    Tally limit (registry.mapStreams change) (opened.map (Prod.map id change)) closed where
  coherent := tally.coherent.mapStreams keeps
  limit := tally.limit
  fits := by simpa [mapStreams] using tally.fits
  distinct := by simpa [List.map_map, Function.comp_def] using tally.distinct
  finds other stream := by
    simp [find?_mapStreams, tally.finds]
  counts slot := by
    rw [givenBack_of_generations (generations_mapStreams change), tally.counts]
  past := tally.past

theorem erased (tally : Tally limit registry opened closed)
    (erased : registry.erase handle = .ok (stream, after)) :
    Tally limit after (opened.filter (·.1 ≠ handle)) (handle :: closed) where
  coherent := tally.coherent.erase erased
  limit := (limit_erase erased).1.trans tally.limit
  fits := by
    obtain ⟨sameLimit, sameLength⟩ := limit_erase erased
    rw [sameLimit, sameLength]
    exact tally.fits
  distinct := (List.filter_sublist.map Prod.fst).nodup tally.distinct
  finds other found := by
    rw [List.mem_filter, tally.finds, find?_erase erased]
    by_cases same : other = handle <;> simp [same]
  counts slot := by
    rw [givenBack_erase erased, closings, List.countP_cons, ← closings, tally.counts]
    by_cases same : slot = handle.slot
    · simp [same, UInt32.ofNat_add]
    · have apart : slot.toNat ≠ handle.slot.toNat := fun equal => same (UInt16.toNat_inj.mp equal)
      simp [apart, Ne.symm same]
  past other member := by
    rw [closings, List.countP_cons, ← closings]
    rcases List.mem_cons.mp member with rfl | member
    · -- its generation is the count so far, or less if that count has wrapped
      obtain ⟨_, got, _⟩ := map_eq_ok.mp erased
      have generation : other.generation.toNat = closings closed other.slot % 2 ^ 32 := by
        rw [← givenBack_of_find? (get_eq_ok.mp got), tally.counts, UInt32.toNat_ofNat']
      simp
      omega
    · have before := tally.past other member
      omega

theorem handles_perm (tally : Tally limit registry opened closed) :
    registry.handles.Perm (opened.map Prod.fst) := by
  rw [List.perm_ext_iff_of_nodup tally.coherent.handles_nodup tally.distinct]
  intro handle
  rw [tally.coherent.mem_handles, tally.mem_handles]

theorem size_eq (tally : Tally limit registry opened closed) : registry.size = opened.length := by
  simpa [handles, size] using tally.handles_perm.length_eq

theorem not_mem_closed (tally : Tally limit registry opened closed)
    (rare : closings closed handle.slot < UInt32.size)
    (current : registry.givenBack handle.slot.toNat = handle.generation) : handle ∉ closed := by
  intro member
  have past := tally.past handle member
  rw [← current, tally.counts, UInt32.toNat_ofNat_of_lt' rare] at past
  omega

variable [RecordSource S] {name : String} {source : S}

theorem alone (tally : Tally limit registry opened closed)
    (inserted : registry.insert name source = .ok (handle, after)) :
    ∀ held ∈ opened, held.1.slot ≠ handle.slot := by
  intro held member same
  have found := (tally.finds held.1 held.2).mp member
  have vacant := (freeSlot?_eq_some (insert_eq_ok inserted).1).1
  rw [find?_eq_streamAt, same, vacant] at found
  simp at found

theorem taken_below (tally : Tally limit registry opened closed)
    (inserted : registry.insert name source = .ok (handle, after)) :
    ∀ lower < handle.slot, ∃ held ∈ opened, held.1.slot = lower := by
  intro lower below
  have taken := (freeSlot?_eq_some (insert_eq_ok inserted).1).2.1
  obtain ⟨stream, here⟩ := Option.isSome_iff_exists.mp
    (taken lower.toNat (UInt16.lt_iff_toNat_lt.mp below))
  have found : registry.find? ⟨lower, registry.givenBack lower.toNat⟩ = some stream := by
    rw [find?_eq_streamAt, if_pos rfl, here]
  exact ⟨_, (tally.finds _ stream).mpr found, rfl⟩

theorem inserted (tally : Tally limit registry opened closed)
    (inserted : registry.insert name source = .ok (handle, after)) :
    Tally limit after (opened ++ [(handle, .ofSource handle name source)]) closed := by
  obtain ⟨free, generation, sameLimit, slots⟩ := insert_eq_ok inserted
  have room := (freeSlot?_eq_some free).2.2
  have unseen := find?_before_insert inserted
  have fresh : handle ∉ opened.map Prod.fst := by simp [tally.mem_handles, unseen]
  have fits := tally.fits
  exact {
    coherent := tally.coherent.insert inserted
    limit := sameLimit.trans tally.limit
    fits := by
      have beyond : after.slots[registry.limit]? = none := by
        rw [slots, if_neg (by omega)]
        exact List.getElem?_eq_none fits
      rw [sameLimit]
      exact List.getElem?_eq_none_iff.mp beyond
    distinct := by
      rw [List.map_append, List.map_singleton, List.nodup_append]
      refine ⟨tally.distinct, by simp, ?_⟩
      intro held member other last
      rw [List.mem_singleton.mp last]
      exact ne_of_mem_of_not_mem member fresh
    finds := by
      intro other stream
      rw [find?_insert inserted, List.mem_append, List.mem_singleton, tally.finds, Prod.mk.injEq]
      by_cases same : other = handle
      · subst same
        simp [unseen, eq_comm]
      · simp [same]
    counts := fun slot => by rw [givenBack_insert inserted, tally.counts]
    past := tally.past }

end Tally

/-- A registry after any run of operations, with the streams that are open, each with the handle that
its insert returned, and the handles that were closed. Look-ups and failures leave it as it is, but for
an insert that is refused after it has set up a slot. -/
inductive History [RecordSource S] (limit : Nat) :
    Registry S → List (Handle × Stream S) → List Handle → Prop
  | created : History limit { limit } [] []
  | inserted {registry after : Registry S} {opened : List (Handle × Stream S)}
      {closed : List Handle} {name : String} {source : S} {handle : Handle} :
      History limit registry opened closed → registry.insert name source = .ok (handle, after) →
      History limit after (opened ++ [(handle, .ofSource handle name source)]) closed
  | refused {registry : Registry S} {opened : List (Handle × Stream S)} {closed : List Handle}
      {name : String} {source : S} {fault : Fault} :
      History limit registry opened closed → registry.insert name source = .error fault →
      History limit registry.grown opened closed
  | changed {registry : Registry S} {opened : List (Handle × Stream S)} {closed : List Handle}
      {handle : Handle} {change : Stream S → Stream S} :
      History limit registry opened closed →
      (∀ stream, (change stream).handle = stream.handle) →
      History limit (registry.modify handle change) (opened.map (changeAt handle change)) closed
  | changedAll {registry : Registry S} {opened : List (Handle × Stream S)} {closed : List Handle}
      {change : Stream S → Stream S} :
      History limit registry opened closed →
      (∀ stream, (change stream).handle = stream.handle) →
      History limit (registry.mapStreams change) (opened.map (Prod.map id change)) closed
  | erased {registry after : Registry S} {opened : List (Handle × Stream S)}
      {closed : List Handle} {handle : Handle} {stream : Stream S} :
      History limit registry opened closed → registry.erase handle = .ok (stream, after) →
      History limit after (opened.filter (·.1 ≠ handle)) (handle :: closed)

theorem Tally.of_history [RecordSource S] (history : History limit registry opened closed) :
    Tally limit registry opened closed := by
  induction history with
  | created => exact created limit
  | inserted _ inserted ih => exact ih.inserted inserted
  | refused _ _ ih => exact ih.grown
  | changed _ keeps ih => exact ih.changed keeps
  | changedAll _ keeps ih => exact ih.changedAll keeps
  | erased _ erased ih => exact ih.erased erased

/-- Handles never alias, whatever was opened, changed and closed, as long as no slot was given back
as often as a generation counts. Streams are told apart by the handles that their inserts returned:

* an insert succeeds exactly while there is room, in the lowest vacant slot and under a handle that was
  never returned before; refused, it names the limit and leaves all streams as they were;
* looking up, changing and removing work for the open handles, on the stream of that insert, and the
  last two touch no other stream;
* for any other handle, all three fail and change nothing;
* the handles that are listed are the open ones, by slot. -/
theorem History.handles_never_alias [RecordSource S]
    (history : History limit registry opened closed)
    (rare : ∀ slot, closings closed slot < UInt32.size) :
    (∀ (name : String) (source : S),
      ((∃ handle after, registry.insert name source = .ok (handle, after)) ↔
        opened.length < min limit maxSlots) ∧
      (∀ fault, registry.insert name source = .error fault → fault = .full limit ∧
        registry.grown.streams = registry.streams ∧
        ∀ handle, registry.grown.get handle = registry.get handle) ∧
      ∀ handle after, registry.insert name source = .ok (handle, after) →
        handle ∉ opened.map Prod.fst ∧ handle ∉ closed ∧
        (∀ held ∈ opened, held.1.slot ≠ handle.slot) ∧
        (∀ lower < handle.slot, ∃ held ∈ opened, held.1.slot = lower) ∧
        ∀ other, after.get other =
          if other = handle then .ok (.ofSource handle name source) else registry.get other) ∧
    (∀ handle stream, (handle, stream) ∈ opened →
      handle ∉ closed ∧ registry.get handle = .ok stream ∧
      (∀ change other, (registry.modify handle change).get other =
        if other = handle then .ok (change stream) else registry.get other) ∧
      ∃ after, registry.erase handle = .ok (stream, after) ∧
        ∀ other, after.get other =
          if other = handle then .error (.notOpen handle) else registry.get other) ∧
    (∀ handle ∉ opened.map Prod.fst,
      registry.get handle = .error (.notOpen handle) ∧
      registry.erase handle = .error (.notOpen handle) ∧
      ∀ change, registry.modify handle change = registry) ∧
    registry.handles.Perm (opened.map Prod.fst) ∧
    registry.handles.Pairwise (·.slot < ·.slot) := by
  have tally := Tally.of_history history
  refine ⟨fun name source => ⟨?_, ?_, ?_⟩, ?_, ?_, tally.handles_perm,
    tally.coherent.handles_ascending⟩
  · rw [tally.coherent.insert_succeeds_iff tally.fits, tally.size_eq, tally.limit]
  · intro fault refused
    have named := (insert_eq_error refused).1
    exact ⟨tally.limit ▸ named, streams_grown, fun handle => by rw [get_eq, find?_grown, get_eq]⟩
  · intro handle after inserted
    have alone := tally.alone inserted
    have fresh : handle ∉ opened.map Prod.fst := by
      intro member
      obtain ⟨held, present, named⟩ := List.mem_map.mp member
      exact alone held present (congrArg Handle.slot named)
    exact ⟨fresh, tally.not_mem_closed (rare _) (insert_eq_ok inserted).2.1.symm, alone,
      tally.taken_below inserted, get_insert inserted⟩
  · intro handle stream member
    have found := (tally.finds handle stream).mp member
    have got := get_eq_ok.mpr found
    have erased : registry.erase handle = .ok (stream, _) := map_eq_ok.mpr ⟨stream, got, rfl⟩
    exact ⟨tally.not_mem_closed (rare _) (givenBack_of_find? found), got, get_modify found,
      _, erased, get_erase erased⟩
  · intro handle absent
    have unseen : registry.find? handle = none := by
      cases found : registry.find? handle with
      | none => rfl
      | some stream => exact (absent (tally.mem_handles.mpr ⟨stream, found⟩)).elim
    have failed : registry.get handle = .error (.notOpen handle) := by rw [get_eq, unseen]; rfl
    refine ⟨failed, map_eq_error.mpr failed, fun change => ?_⟩
    rw [modify, unseen]

theorem reused_slot_has_another_handle :
    ∃ (registry : Registry Script) (opened : List (Handle × Stream Script)),
      History 2 registry opened [⟨0, 0⟩] ∧ opened.map Prod.fst = [⟨1, 0⟩, ⟨0, 1⟩] ∧
      registry.handles = [⟨0, 1⟩, ⟨1, 0⟩] ∧ registry.get ⟨0, 0⟩ = .error (.notOpen ⟨0, 0⟩) ∧
      ¬∃ handle after, registry.insert "d" (Script.ofLists [] none none) = .ok (handle, after) := by
  let script := Script.ofLists [] none none
  let a : Stream Script := .ofSource ⟨0, 0⟩ "a" script
  let b : Stream Script := .ofSource ⟨1, 0⟩ "b" script
  let c : Stream Script := .ofSource ⟨0, 1⟩ "c" script
  have first : History 2 ⟨[⟨0, some a⟩], 2⟩ [(⟨0, 0⟩, a)] [] := .inserted .created rfl
  have second : History 2 ⟨[⟨0, some a⟩, ⟨0, some b⟩], 2⟩ [(⟨0, 0⟩, a), (⟨1, 0⟩, b)] [] :=
    .inserted first rfl
  have erased : erase ⟨[⟨0, some a⟩, ⟨0, some b⟩], 2⟩ ⟨0, 0⟩ =
    .ok (a, ⟨[⟨1, none⟩, ⟨0, some b⟩], 2⟩) := rfl
  have third : History 2 ⟨[⟨1, none⟩, ⟨0, some b⟩], 2⟩ [(⟨1, 0⟩, b)] [⟨0, 0⟩] :=
    second.erased erased
  have again : History 2 ⟨[⟨1, some c⟩, ⟨0, some b⟩], 2⟩ [(⟨1, 0⟩, b), (⟨0, 1⟩, c)] [⟨0, 0⟩] :=
    third.inserted rfl
  have rare : ∀ slot, closings [⟨0, 0⟩] slot < UInt32.size := fun slot =>
    Nat.lt_of_le_of_lt List.countP_le_length (by decide)
  obtain ⟨inserting, _, others, _⟩ := again.handles_never_alias rare
  refine ⟨_, _, again, rfl, rfl, (others ⟨0, 0⟩ (by decide)).1, ?_⟩
  rw [(inserting "d" script).1]
  decide

end KernelTrace.Registry
