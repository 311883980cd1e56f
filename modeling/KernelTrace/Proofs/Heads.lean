import KernelTrace.Proofs.Collections
import KernelTrace.Proofs.Merge

/-! Merging lanes as a loop: it looks along the heads for the earliest, takes it and looks again.
The loop ends with the merged lanes, which are the stable sort of what stood in them. -/

namespace KernelTrace

/-- Of two heads, each with its lane, the earlier one. The second has to be strictly earlier. -/
def earlierHead : Option (Nat × Int64) → Option (Nat × Int64) → Option (Nat × Int64)
  | best, none => best
  | none, some next => some next
  | some best, some next => if next.2 < best.2 then some next else some best

def headOf (lane : List Entry × Nat) : Option (Nat × Int64) :=
  lane.1.head?.map fun entry => (lane.2, entry.ts)

def earliestHead (lanes : List (List Entry)) (first : Nat) : Option (Nat × Int64) :=
  ((lanes.zipIdx first).map headOf).foldl earlierHead none

theorem earlierHead_none_left (next : Option (Nat × Int64)) : earlierHead none next = next := by
  cases next <;> rfl

theorem earlierHead_none_right (best : Option (Nat × Int64)) : earlierHead best none = best := by
  cases best <;> rfl

theorem earlierHead_assoc (a b c : Option (Nat × Int64)) :
    earlierHead (earlierHead a b) c = earlierHead a (earlierHead b c) := by
  rcases a with _ | a <;> rcases b with _ | b <;> rcases c with _ | c <;>
    simp only [earlierHead, Int64.lt_iff_toInt_lt] <;> grind [earlierHead]

theorem earliestHead_cons (lane : List Entry) (lanes : List (List Entry)) (first : Nat) :
    earliestHead (lane :: lanes) first =
      earlierHead (headOf (lane, first)) (earliestHead lanes (first + 1)) := by
  have : Std.Associative earlierHead := ⟨earlierHead_assoc⟩
  simp only [earliestHead, List.zipIdx_cons, List.map_cons, List.foldl_cons, earlierHead_none_left]
  calc
    _ = ((lanes.zipIdx (first + 1)).map headOf).foldl earlierHead
        (earlierHead (headOf (lane, first)) none) := by rw [earlierHead_none_right]
    _ = _ := List.foldl_assoc

theorem takeEarliest_of_earliestHead (lanes : List (List Entry)) (first : Nat) :
    match earliestHead lanes first with
    | none => takeEarliest lanes = none
    | some (place, ts) => ∃ lane entry rest, place = first + lane ∧ entry.ts = ts ∧
        lanes[lane]? = some (entry :: rest) ∧
        takeEarliest lanes = some (entry, lanes.set lane rest) := by
  induction lanes generalizing first with
  | nil => rfl
  | cons head lanes ih =>
      rw [earliestHead_cons]
      have seen := ih (first + 1)
      rcases others : earliestHead lanes (first + 1) with _ | ⟨place, ts⟩
      · rw [others] at seen
        cases head with
        | nil => simpa [earlierHead, headOf, takeEarliest] using seen
        | cons entry head =>
            refine ⟨0, entry, head, rfl, rfl, rfl, ?_⟩
            have none : takeEarliest lanes = none := seen
            rw [takeEarliest, none]
            rfl
      · rw [others] at seen
        obtain ⟨lane, entry, rest, rfl, rfl, found, taken⟩ := seen
        cases head with
        | nil =>
            refine ⟨lane + 1, entry, rest, by omega, rfl, by simpa using found, ?_⟩
            rw [takeEarliest, taken]
            rfl
        | cons here head =>
            simp only [earlierHead, headOf, List.head?_cons, Option.map_some]
            by_cases earlier : entry.ts < here.ts
            · rw [if_pos earlier]
              refine ⟨lane + 1, entry, rest, by omega, rfl, by simpa using found, ?_⟩
              simp only [takeEarliest, taken, if_pos earlier, List.set_cons_succ]
            · rw [if_neg earlier]
              refine ⟨0, here, head, rfl, rfl, rfl, ?_⟩
              simp only [takeEarliest, taken, if_neg earlier, List.set_cons_zero]

structure Draining where
  heads : List (List Entry)
  merged : List Entry := []

namespace Draining

def step (draining : Draining) : Option Draining :=
  match earliestHead draining.heads 0 with
  | none => none
  | some (lane, _) =>
    let taken := draining.heads[lane]?.bind List.head?
    some ⟨draining.heads.modify lane List.tail, draining.merged ++ taken.toList⟩

theorem step_eq_none {draining : Draining} (stops : draining.step = none) :
    takeEarliest draining.heads = none := by
  have seen := takeEarliest_of_earliestHead draining.heads 0
  unfold step at stops
  split at stops
  · rename_i none
    rwa [none] at seen
  · cases stops

theorem step_eq_some {draining next : Draining} (moves : draining.step = some next) :
    ∃ entry, takeEarliest draining.heads = some (entry, next.heads) ∧
      next.merged = draining.merged ++ [entry] := by
  have seen := takeEarliest_of_earliestHead draining.heads 0
  unfold step at moves
  split at moves
  · cases moves
  · rename_i place ts found
    rw [found] at seen
    obtain ⟨lane, entry, rest, same, _, there, taken⟩ := seen
    cases moves
    rw [Nat.zero_add] at same
    subst same
    refine ⟨entry, ?_, by rw [there]; rfl⟩
    rw [taken, List.modify_eq_set_getElem?, there]
    rfl

theorem step_shortens {draining next : Draining} (moves : draining.step = some next) :
    totalLength next.heads < totalLength draining.heads := by
  obtain ⟨entry, taken, _⟩ := step_eq_some moves
  rw [takeEarliest_length taken]
  exact Nat.lt_succ_self _

def run (draining : Draining) : List Entry :=
  match _step : draining.step with
  | none => draining.merged
  | some next => run next
termination_by totalLength draining.heads
decreasing_by exact step_shortens _step

theorem step_invariant {draining next : Draining} (moves : draining.step = some next) :
    next.merged ++ mergeLanes next.heads = draining.merged ++ mergeLanes draining.heads := by
  obtain ⟨entry, taken, merged⟩ := step_eq_some moves
  rw [merged, mergeLanes_of_some taken, List.append_assoc]
  rfl

theorem run_eq (draining : Draining) :
    draining.run = draining.merged ++ mergeLanes draining.heads := by
  fun_induction run draining with
  | case1 draining stops =>
      rw [mergeLanes_of_none (step_eq_none stops), List.append_nil]
  | case2 draining next moves ih => rw [ih, step_invariant moves]

end Draining

structure Placed where
  entry : Entry
  lane : Nat
  position : Nat
  deriving DecidableEq, Repr

namespace Placed

def Precedes (a b : Placed) : Prop :=
  a.lane < b.lane ∨ a.lane = b.lane ∧ a.position < b.position

/-- Goes first in a merge: the earlier one, and of two at one time the one that precedes. -/
def GoesFirst (a b : Placed) : Prop :=
  a.entry.ts < b.entry.ts ∨ a.entry.ts = b.entry.ts ∧ a.Precedes b

def ofLane (lane : List Entry × Nat) : List Placed :=
  lane.1.zipIdx.map fun (entry, position) => ⟨entry, lane.2, position⟩

def ofLanes (lanes : List (List Entry)) (first : Nat) : List Placed :=
  (lanes.zipIdx first).flatMap ofLane

theorem ofLanes_cons (lane : List Entry) (lanes : List (List Entry)) (first : Nat) :
    ofLanes (lane :: lanes) first = ofLane (lane, first) ++ ofLanes lanes (first + 1) := by
  rw [ofLanes, List.zipIdx_cons, List.flatMap_cons, ofLanes]

theorem entries_ofLane (lane : List Entry × Nat) : (ofLane lane).map (·.entry) = lane.1 := by
  rw [ofLane, List.map_map]
  exact List.zipIdx_map_fst 0 lane.1

theorem entries_ofLanes (lanes : List (List Entry)) (first : Nat) :
    (ofLanes lanes first).map (·.entry) = lanes.flatten := by
  induction lanes generalizing first with
  | nil => rfl
  | cons lane lanes ih =>
      rw [ofLanes_cons, List.map_append, entries_ofLane, ih, List.flatten_cons]

theorem ofLane_ascending (lane : List Entry × Nat) : (ofLane lane).Pairwise Precedes := by
  rw [ofLane, List.pairwise_map]
  refine (zipIdx_ascending lane.1).imp ?_
  intro a b below
  exact .inr ⟨rfl, below⟩

theorem lane_of_mem {placed : Placed} {lanes : List (List Entry)} {first : Nat}
    (member : placed ∈ ofLanes lanes first) : first ≤ placed.lane := by
  obtain ⟨⟨lane, number⟩, numbered, inside⟩ := List.mem_flatMap.mp member
  obtain ⟨pair, _, rfl⟩ := List.mem_map.mp inside
  exact (List.mem_zipIdx numbered).1

theorem ofLanes_ascending (lanes : List (List Entry)) (first : Nat) :
    (ofLanes lanes first).Pairwise Precedes := by
  induction lanes generalizing first with
  | nil => exact .nil
  | cons lane lanes ih =>
      rw [ofLanes_cons, List.pairwise_append]
      refine ⟨ofLane_ascending _, ih _, ?_⟩
      intro a here b later
      obtain ⟨pair, _, rfl⟩ := List.mem_map.mp here
      exact .inl (lane_of_mem later)

def isNotLater (a b : Placed) : Bool := notLater a.entry b.entry

theorem sort_goesFirst (lanes : List (List Entry)) :
    ((ofLanes lanes 0).mergeSort isNotLater).Pairwise GoesFirst := by
  have trans : ∀ a b c : Placed, isNotLater a b → isNotLater b c → isNotLater a c :=
    fun a b c => notLater_trans a.entry b.entry c.entry
  have total : ∀ a b : Placed, isNotLater a b || isNotLater b a :=
    fun a b => notLater_total a.entry b.entry
  refine (pairwise_mergeSort_ties trans total (ofLanes_ascending lanes 0)).imp ?_
  rintro a b ⟨below, ties⟩
  have notAfter : a.entry.ts ≤ b.entry.ts := notLater_iff.mp below
  by_cases same : a.entry.ts = b.entry.ts
  · exact .inr ⟨same, ties (notLater_iff.mpr (same ▸ Int64.le_refl _))⟩
  · exact .inl (Int64.lt_of_le_of_ne notAfter same)

/-- Sorting the places by time puts the entries in the order of the merge. -/
theorem exists_merge_order {lanes : List (List Entry)} (ordered : ∀ lane ∈ lanes, isOrdered lane) :
    ∃ order : List Placed, order.Perm (ofLanes lanes 0) ∧ order.Pairwise GoesFirst ∧
      order.map (·.entry) = mergeLanes lanes := by
  refine ⟨_, List.mergeSort_perm _ _, sort_goesFirst lanes, ?_⟩
  rw [mergeLanes_eq_mergeSort ordered, ← entries_ofLanes lanes 0]
  exact List.map_mergeSort fun _ _ _ _ => rfl

end Placed

/-- On ordered lanes the loop comes to its end, with the merged lanes. These are the stable sort by
time of what stands in the lanes, one lane after the other: in time order, every entry of every lane
once, and of two entries at one time the one of the lane further left first, in one lane the one
that stands earlier. -/
theorem merging_lanes_sorts {lanes : List (List Entry)} (ordered : ∀ lane ∈ lanes, isOrdered lane) :
    (Draining.mk lanes []).run = mergeLanes lanes ∧
      mergeLanes lanes = lanes.flatten.mergeSort notLater ∧
      isOrdered (mergeLanes lanes) ∧
      (mergeLanes lanes).Perm lanes.flatten ∧
      ∃ order : List Placed, order.Perm (Placed.ofLanes lanes 0) ∧ order.Pairwise Placed.GoesFirst ∧
        order.map (·.entry) = mergeLanes lanes :=
  ⟨Draining.run_eq ⟨lanes, []⟩, mergeLanes_eq_mergeSort ordered, mergeLanes_ordered ordered,
    mergeLanes_perm lanes, Placed.exists_merge_order ordered⟩

def entryAt (ts : Int64) (cpu : Int32) (offset : UInt64) : Entry :=
  { ts, cpu, offset, stream := ⟨0, 0⟩, pid := 7, eventId := 1, visible := View.all }

/-- The CPUs stand in another order than the lanes, and one lane is empty. -/
def tiedLanes : List (List Entry) :=
  [[entryAt 3 1 0], [], [entryAt 1 0 0, entryAt 3 0 1, entryAt 3 0 2], [entryAt 1 2 0]]

theorem merging_tiedLanes :
    (∀ lane ∈ tiedLanes, isOrdered lane) ∧
      (Draining.mk tiedLanes []).run =
        [entryAt 1 0 0, entryAt 1 2 0, entryAt 3 1 0, entryAt 3 0 1, entryAt 3 0 2] ∧
      tiedLanes.flatten.mergeSort notLater =
        [entryAt 1 0 0, entryAt 1 2 0, entryAt 3 1 0, entryAt 3 0 1, entryAt 3 0 2] := by
  have ordered : ∀ lane ∈ tiedLanes, isOrdered lane := by decide
  have merged : mergeLanes tiedLanes =
      [entryAt 1 0 0, entryAt 1 2 0, entryAt 3 1 0, entryAt 3 0 1, entryAt 3 0 2] := by
    simp only [tiedLanes, mergeLanes_cons, mergeLanes_nil]
    cbv
  obtain ⟨run, sorted, _⟩ := merging_lanes_sorts ordered
  exact ⟨ordered, run.trans merged, sorted.symm.trans merged⟩

end KernelTrace
