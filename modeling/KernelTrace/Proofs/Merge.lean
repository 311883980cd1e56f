import KernelTrace.Timeline
import KernelTrace.Proofs.Sorting
import Mathlib.Data.List.TakeDrop
import Mathlib.Data.List.TakeWhile

/-! The laws of merging. Merging pairs and merging lanes are both the plain two-way merge that takes
from the left unless the right is earlier. That merge is associative and commutes with every change
that keeps times, and on ordered lists it is ordered and leaves equal times in list order. -/

namespace KernelTrace

def notLater (x y : Entry) : Bool := x.ts ≤ y.ts

theorem notLater_iff {x y : Entry} : notLater x y = true ↔ x.ts ≤ y.ts := by
  simp [notLater]

theorem notLater_total (x y : Entry) : notLater x y || notLater y x := by
  have either := Int64.le_total x.ts y.ts
  simpa [notLater] using either

theorem notLater_trans (x y z : Entry) (first : notLater x y) (second : notLater y z) :
    notLater x z := by
  rw [notLater_iff] at first second ⊢
  exact Int64.le_trans first second

theorem isOrdered_iff {entries : List Entry} :
    isOrdered entries = true ↔ entries.Pairwise fun x y => notLater x y := by
  induction entries with
  | nil => simp [isOrdered]
  | cons first rest ih =>
      cases rest with
      | nil => simp [isOrdered]
      | cons second rest =>
          rw [List.pairwise_cons, ← ih]
          simp only [isOrdered, Bool.and_eq_true, decide_eq_true_eq]
          constructor
          · intro ⟨below, ordered⟩
            refine ⟨?_, ordered⟩
            intro entry member
            rcases List.mem_cons.mp member with rfl | member
            · exact notLater_iff.mpr below
            · exact notLater_trans _ _ _ (notLater_iff.mpr below)
                ((List.pairwise_cons.mp (ih.mp ordered)).1 entry member)
          · intro ⟨below, ordered⟩
            exact ⟨notLater_iff.mp (below second List.mem_cons_self), ordered⟩

theorem isOrdered_cons {entry : Entry} {entries : List Entry} :
    isOrdered (entry :: entries) = true ↔
      (∀ other ∈ entries, entry.ts ≤ other.ts) ∧ isOrdered entries = true := by
  rw [isOrdered_iff, isOrdered_iff, List.pairwise_cons]
  simp only [notLater_iff]

theorem isOrdered_tail {entry : Entry} {entries : List Entry}
    (ordered : isOrdered (entry :: entries)) : isOrdered entries :=
  (isOrdered_cons.mp ordered).2

/-- Takes from the left unless the right is strictly earlier. -/
def mergeTwo (first second : List Entry) : List Entry := first.merge second notLater

@[simp] theorem mergeTwo_nil_left (entries : List Entry) : mergeTwo [] entries = entries := by
  simp [mergeTwo]

@[simp] theorem mergeTwo_nil_right (entries : List Entry) : mergeTwo entries [] = entries := by
  simp [mergeTwo]

theorem mergeTwo_cons (x y : Entry) (first second : List Entry) :
    mergeTwo (x :: first) (y :: second) =
      if x.ts ≤ y.ts then x :: mergeTwo first (y :: second)
      else y :: mergeTwo (x :: first) second := by
  simp only [mergeTwo, List.cons_merge_cons, notLater_iff]

/-- Each step compares the same three heads on both sides, so no order is needed. -/
theorem mergeTwo_assoc (first second third : List Entry) :
    mergeTwo (mergeTwo first second) third = mergeTwo first (mergeTwo second third) := by
  induction first generalizing second third with
  | nil => simp
  | cons x first firstIH =>
      induction second generalizing third with
      | nil => simp
      | cons y second secondIH =>
          induction third with
          | nil => simp
          | cons z third thirdIH =>
              by_cases xy : x.ts ≤ y.ts
              · by_cases yz : y.ts ≤ z.ts
                · have xz := Int64.le_trans xy yz
                  simp only [mergeTwo_cons, xy, yz, xz, if_true]
                  rw [firstIH, mergeTwo_cons, if_pos yz]
                · by_cases xz : x.ts ≤ z.ts
                  · simp only [mergeTwo_cons, xy, yz, xz, if_true, if_false]
                    rw [firstIH, mergeTwo_cons, if_neg yz]
                  · simp only [mergeTwo_cons, xy, yz, xz, if_true, if_false] at thirdIH ⊢
                    rw [thirdIH]
              · by_cases yz : y.ts ≤ z.ts
                · simp only [mergeTwo_cons, xy, yz, if_true, if_false]
                  rw [secondIH]
                · have zx : ¬ x.ts ≤ z.ts := by
                    intro xz
                    exact xy (Int64.le_trans xz (Int64.le_of_lt (Int64.not_le.mp yz)))
                  simp only [mergeTwo_cons, xy, yz, zx, if_false] at thirdIH ⊢
                  rw [thirdIH]

theorem mem_mergeTwo {entry : Entry} {first second : List Entry} :
    entry ∈ mergeTwo first second ↔ entry ∈ first ∨ entry ∈ second :=
  List.mem_merge

theorem mergeTwo_perm (first second : List Entry) :
    (mergeTwo first second).Perm (first ++ second) :=
  List.merge_perm_append notLater

theorem mergeTwo_ordered {first second : List Entry} (left : isOrdered first)
    (right : isOrdered second) : isOrdered (mergeTwo first second) := by
  rw [isOrdered_iff] at left right ⊢
  exact List.pairwise_merge notLater_trans notLater_total first second left right

theorem mergeTwo_map_of_le_iff {change : Entry → Entry} {first second : List Entry}
    (keepsOrder : ∀ x ∈ first, ∀ y ∈ second, (change x).ts ≤ (change y).ts ↔ x.ts ≤ y.ts) :
    (mergeTwo first second).map change = mergeTwo (first.map change) (second.map change) := by
  apply List.map_merge
  intro x left y right
  rw [Bool.eq_iff_iff, notLater_iff, notLater_iff, keepsOrder x left y right]

theorem mergeTwo_sublist_left (first second : List Entry) :
    first.Sublist (mergeTwo first second) := by
  induction first generalizing second with
  | nil => exact List.nil_sublist _
  | cons x first firstIH =>
      induction second with
      | nil => simp
      | cons y second secondIH =>
          rw [mergeTwo_cons]
          split
          · exact (firstIH (y :: second)).cons_cons x
          · exact secondIH.cons y

theorem mergeTwo_sublist_right (first second : List Entry) :
    second.Sublist (mergeTwo first second) := by
  induction first generalizing second with
  | nil => simp
  | cons x first firstIH =>
      induction second with
      | nil => exact List.nil_sublist _
      | cons y second secondIH =>
          rw [mergeTwo_cons]
          split
          · exact (firstIH (y :: second)).cons x
          · exact secondIH.cons_cons y

theorem mergeTwo_filter_time (time : Int64) {first second : List Entry} (left : isOrdered first)
    (right : isOrdered second) :
    (mergeTwo first second).filter (·.ts = time) =
      first.filter (·.ts = time) ++ second.filter (·.ts = time) := by
  induction first generalizing second with
  | nil => simp
  | cons x first firstIH =>
      induction second with
      | nil => simp
      | cons y second secondIH =>
          rw [mergeTwo_cons]
          split
          · rename_i notAfter
            by_cases now : x.ts = time
            · simp [now, firstIH (isOrdered_tail left) right]
            · simp [now, firstIH (isOrdered_tail left) right]
          · rename_i after
            by_cases now : y.ts = time
            · -- everything on the left comes later than `y`, so none of it has this time
              have none : ∀ entry ∈ x :: first, ¬ entry.ts = time := by
                intro entry member same
                have above : x.ts ≤ entry.ts := by
                  rcases List.mem_cons.mp member with rfl | member
                  · exact Int64.le_refl _
                  · exact (isOrdered_cons.mp left).1 entry member
                rw [same, ← now] at above
                exact after above
              have empty : (x :: first).filter (·.ts = time) = [] := by
                simpa [List.filter_eq_nil_iff] using none
              rw [List.filter_cons_of_pos (by simpa using now), secondIH (isOrdered_tail right),
                empty, List.filter_cons_of_pos (by simpa using now)]
              rfl
            · rw [List.filter_cons_of_neg (by simpa using now), secondIH (isOrdered_tail right),
                List.filter_cons_of_neg (l := second) (by simpa using now)]

theorem mergeTwo_run_left {run : List Entry} {y : Entry} (below : ∀ entry ∈ run, entry.ts ≤ y.ts)
    (first second : List Entry) :
    mergeTwo (run ++ first) (y :: second) = run ++ mergeTwo first (y :: second) := by
  induction run with
  | nil => rfl
  | cons x run ih =>
      have inside : x.ts ≤ y.ts := below x List.mem_cons_self
      rw [List.cons_append, mergeTwo_cons, if_pos inside,
        ih fun entry member => below entry (List.mem_cons_of_mem x member)]
      rfl

theorem mergeTwo_run_right {run : List Entry} {x : Entry} (below : ∀ entry ∈ run, entry.ts < x.ts)
    (first second : List Entry) :
    mergeTwo (x :: first) (run ++ second) = run ++ mergeTwo (x :: first) second := by
  induction run with
  | nil => rfl
  | cons y run ih =>
      have inside : ¬ x.ts ≤ y.ts := Int64.not_le.mpr (below y List.mem_cons_self)
      rw [List.cons_append, mergeTwo_cons, if_neg inside,
        ih fun entry member => below entry (List.mem_cons_of_mem y member)]
      rfl

/-- Copying a leading run first changes nothing. -/
theorem mergePair_eq_mergeTwo (first second : List Entry) :
    mergePair first second = mergeTwo first second := by
  cases first with
  | nil => simp [mergePair]
  | cons x first =>
      cases second with
      | nil => simp [mergePair]
      | cons y second =>
          simp only [mergePair, List.span_eq_takeWhile_dropWhile]
          split
          · have below : ∀ entry ∈ (x :: first).takeWhile (fun entry => entry.ts < y.ts),
                entry.ts ≤ y.ts := by
              intro entry member
              have earlier := List.mem_takeWhile_imp member
              exact Int64.le_of_lt (of_decide_eq_true earlier)
            have copied := mergeTwo_run_left below
              ((x :: first).dropWhile fun entry => entry.ts < y.ts) second
            rw [List.takeWhile_append_dropWhile] at copied
            exact copied.symm
          · have below : ∀ entry ∈ (y :: second).takeWhile (fun entry => entry.ts < x.ts),
                entry.ts < x.ts := by
              intro entry member
              have earlier := List.mem_takeWhile_imp member
              exact of_decide_eq_true earlier
            have copied := mergeTwo_run_right below first
              ((y :: second).dropWhile fun entry => entry.ts < x.ts)
            rw [List.takeWhile_append_dropWhile] at copied
            exact copied.symm

theorem mergeLanes_nil : mergeLanes [] = [] := by
  rw [mergeLanes]
  rfl

theorem mergeLanes_of_none {lanes : List (List Entry)} (none : takeEarliest lanes = none) :
    mergeLanes lanes = [] := by
  rw [mergeLanes]
  split
  · rfl
  · rename_i taken
    rw [none] at taken
    cases taken

theorem mergeLanes_of_some {lanes rest : List (List Entry)} {entry : Entry}
    (taken : takeEarliest lanes = some (entry, rest)) :
    mergeLanes lanes = entry :: mergeLanes rest := by
  rw [mergeLanes]
  split
  · rename_i none
    rw [taken] at none
    cases none
  · rename_i other
    rw [taken] at other
    cases other
    rfl

theorem mergeLanes_cons (lane : List Entry) (lanes : List (List Entry)) :
    mergeLanes (lane :: lanes) = mergeTwo lane (mergeLanes lanes) := by
  induction total : totalLength (lane :: lanes) using Nat.strongRecOn generalizing lane lanes with
  | _ total ih =>
      subst total
      cases lane with
      | nil =>
          cases taken : takeEarliest lanes with
          | none =>
              have none : takeEarliest ([] :: lanes) = none := by simp [takeEarliest, taken]
              rw [mergeLanes_of_none none, mergeLanes_of_none taken, mergeTwo_nil_left]
          | some found =>
              obtain ⟨other, rest⟩ := found
              have step : takeEarliest ([] :: lanes) = some (other, [] :: rest) := by
                simp [takeEarliest, taken]
              have shorter : totalLength ([] :: rest) < totalLength ([] :: lanes) := by
                rw [takeEarliest_length step]
                exact Nat.lt_succ_self _
              rw [mergeLanes_of_some step, ih _ shorter [] rest rfl, mergeLanes_of_some taken,
                mergeTwo_nil_left, mergeTwo_nil_left]
      | cons head lane =>
          have shorter : totalLength (lane :: lanes) < totalLength ((head :: lane) :: lanes) := by
            simp [totalLength]
          cases taken : takeEarliest lanes with
          | none =>
              have step : takeEarliest ((head :: lane) :: lanes) = some (head, lane :: lanes) := by
                simp [takeEarliest, taken]
              rw [mergeLanes_of_some step, ih _ shorter lane lanes rfl, mergeLanes_of_none taken,
                mergeTwo_nil_right, mergeTwo_nil_right]
          | some found =>
              obtain ⟨other, rest⟩ := found
              rw [mergeLanes_of_some taken, mergeTwo_cons]
              split
              · rename_i notAfter
                have step :
                    takeEarliest ((head :: lane) :: lanes) = some (head, lane :: lanes) := by
                  simp [takeEarliest, taken, Int64.not_lt.mpr notAfter]
                rw [mergeLanes_of_some step, ih _ shorter lane lanes rfl, mergeLanes_of_some taken]
              · rename_i after
                have step : takeEarliest ((head :: lane) :: lanes) =
                    some (other, (head :: lane) :: rest) := by
                  simp [takeEarliest, taken, Int64.not_le.mp after]
                have remaining : totalLength ((head :: lane) :: rest) <
                    totalLength ((head :: lane) :: lanes) := by
                  rw [takeEarliest_length step]
                  exact Nat.lt_succ_self _
                rw [mergeLanes_of_some step, ih _ remaining (head :: lane) rest rfl]

theorem mergeLanes_singleton (lane : List Entry) : mergeLanes [lane] = lane := by
  rw [mergeLanes_cons, mergeLanes_nil, mergeTwo_nil_right]

theorem mergeLanes_pair (first second : List Entry) :
    mergeLanes [first, second] = mergePair first second := by
  rw [mergeLanes_cons, mergeLanes_singleton, mergePair_eq_mergeTwo]

theorem foldl_mergePair (start : List Entry) (lanes : List (List Entry)) :
    lanes.foldl mergePair start = mergeTwo start (mergeLanes lanes) := by
  induction lanes generalizing start with
  | nil => simp [mergeLanes_nil]
  | cons lane lanes ih =>
      calc
        (lane :: lanes).foldl mergePair start =
            mergeTwo (mergePair start lane) (mergeLanes lanes) := ih (mergePair start lane)
        _ = mergeTwo (mergeTwo start lane) (mergeLanes lanes) := by
          rw [mergePair_eq_mergeTwo]
        _ = mergeTwo start (mergeTwo lane (mergeLanes lanes)) :=
          mergeTwo_assoc start lane (mergeLanes lanes)
        _ = mergeTwo start (mergeLanes (lane :: lanes)) := by rw [mergeLanes_cons]

theorem mergeLanes_ordered {lanes : List (List Entry)}
    (ordered : ∀ lane ∈ lanes, isOrdered lane) : isOrdered (mergeLanes lanes) := by
  induction lanes with
  | nil => rw [mergeLanes_nil]; rfl
  | cons lane lanes ih =>
      rw [mergeLanes_cons]
      exact mergeTwo_ordered (ordered lane List.mem_cons_self)
        (ih fun other member => ordered other (List.mem_cons_of_mem lane member))

theorem mergeLanes_perm (lanes : List (List Entry)) : (mergeLanes lanes).Perm lanes.flatten := by
  induction lanes with
  | nil => rw [mergeLanes_nil]; exact List.Perm.refl []
  | cons lane lanes ih =>
      rw [mergeLanes_cons, List.flatten_cons]
      exact (mergeTwo_perm lane _).trans (ih.append_left lane)

theorem mem_mergeLanes {entry : Entry} {lanes : List (List Entry)} :
    entry ∈ mergeLanes lanes ↔ ∃ lane ∈ lanes, entry ∈ lane := by
  rw [(mergeLanes_perm lanes).mem_iff, List.mem_flatten]

theorem mergeLanes_length (lanes : List (List Entry)) :
    (mergeLanes lanes).length = totalLength lanes :=
  (mergeLanes_perm lanes).length_eq

theorem sublist_mergeLanes {lane : List Entry} {lanes : List (List Entry)}
    (member : lane ∈ lanes) : lane.Sublist (mergeLanes lanes) := by
  induction lanes with
  | nil => cases member
  | cons first lanes ih =>
      rw [mergeLanes_cons]
      rcases List.mem_cons.mp member with rfl | member
      · exact mergeTwo_sublist_left _ _
      · exact (ih member).trans (mergeTwo_sublist_right _ _)

theorem mergeLanes_map_of_le_iff {change : Entry → Entry} {lanes : List (List Entry)}
    (keepsOrder : ∀ x ∈ lanes.flatten, ∀ y ∈ lanes.flatten,
      (change x).ts ≤ (change y).ts ↔ x.ts ≤ y.ts) :
    (mergeLanes lanes).map change = mergeLanes (lanes.map (List.map change)) := by
  induction lanes with
  | nil => simp [mergeLanes_nil]
  | cons lane lanes ih =>
      have first : ∀ x ∈ lane, ∀ y ∈ mergeLanes lanes,
          (change x).ts ≤ (change y).ts ↔ x.ts ≤ y.ts := by
        intro x left y right
        have behind := (mergeLanes_perm lanes).mem_iff.mp right
        exact keepsOrder x (List.mem_append_left _ left) y (List.mem_append_right _ behind)
      have others : ∀ x ∈ lanes.flatten, ∀ y ∈ lanes.flatten,
          (change x).ts ≤ (change y).ts ↔ x.ts ≤ y.ts := by
        intro x left y right
        exact keepsOrder x (List.mem_append_right _ left) y (List.mem_append_right _ right)
      calc
        (mergeLanes (lane :: lanes)).map change =
            (mergeTwo lane (mergeLanes lanes)).map change := by rw [mergeLanes_cons]
        _ = mergeTwo (lane.map change) ((mergeLanes lanes).map change) :=
          mergeTwo_map_of_le_iff first
        _ = mergeTwo (lane.map change) (mergeLanes (lanes.map (List.map change))) := by
          rw [ih others]
        _ = mergeLanes ((lane :: lanes).map (List.map change)) := by
          rw [List.map_cons, mergeLanes_cons]

theorem mergeLanes_map {change : Entry → Entry} (keepsTime : ∀ entry, (change entry).ts = entry.ts)
    (lanes : List (List Entry)) :
    (mergeLanes lanes).map change = mergeLanes (lanes.map (List.map change)) := by
  apply mergeLanes_map_of_le_iff
  intro x _ y _
  rw [keepsTime, keepsTime]

theorem mergeLanes_filter_time (time : Int64) {lanes : List (List Entry)}
    (ordered : ∀ lane ∈ lanes, isOrdered lane) :
    (mergeLanes lanes).filter (·.ts = time) = lanes.flatten.filter (·.ts = time) := by
  induction lanes with
  | nil => rw [mergeLanes_nil]; rfl
  | cons lane lanes ih =>
      have others : ∀ other ∈ lanes, isOrdered other :=
        fun other member => ordered other (List.mem_cons_of_mem lane member)
      have first : isOrdered lane := ordered lane List.mem_cons_self
      calc
        (mergeLanes (lane :: lanes)).filter (·.ts = time) =
            (mergeTwo lane (mergeLanes lanes)).filter (·.ts = time) := by rw [mergeLanes_cons]
        _ = lane.filter (·.ts = time) ++ (mergeLanes lanes).filter (·.ts = time) :=
          mergeTwo_filter_time time first (mergeLanes_ordered others)
        _ = lane.filter (·.ts = time) ++ lanes.flatten.filter (·.ts = time) := by rw [ih others]
        _ = (lane :: lanes).flatten.filter (·.ts = time) := by
          rw [List.flatten_cons, List.filter_append]

theorem tied_notLater (a b : Entry) : tied notLater a b = decide (b.ts = a.ts) := by
  rw [Bool.eq_iff_iff, tied_iff, notLater_iff, notLater_iff, decide_eq_true_eq]
  constructor
  · intro ⟨below, above⟩
    exact Int64.le_antisymm above below
  · intro same
    rw [same]
    exact ⟨Int64.le_refl _, Int64.le_refl _⟩

/-- Merging ordered lanes sorts what stands in them, one lane after the other. -/
theorem mergeLanes_eq_mergeSort {lanes : List (List Entry)}
    (ordered : ∀ lane ∈ lanes, isOrdered lane) :
    mergeLanes lanes = lanes.flatten.mergeSort notLater := by
  apply eq_mergeSort notLater_trans notLater_total (isOrdered_iff.mp (mergeLanes_ordered ordered))
  intro entry
  rw [funext (tied_notLater entry)]
  exact mergeLanes_filter_time entry.ts ordered

theorem mergeLanes_flatten (groups : List (List (List Entry))) :
    mergeLanes (groups.map mergeLanes) = mergeLanes groups.flatten := by
  induction groups with
  | nil => rfl
  | cons group groups ih =>
      rw [List.map_cons, mergeLanes_cons, ih, List.flatten_cons]
      induction group with
      | nil => rw [mergeLanes_nil, mergeTwo_nil_left, List.nil_append]
      | cons lane group inner =>
          rw [mergeLanes_cons, mergeTwo_assoc, inner, List.cons_append, mergeLanes_cons]

end KernelTrace
