import KernelTrace.Proofs.Bisection
import KernelTrace.Proofs.Heads

/-! Merging two arrays with bulk copies. The run of one array that precedes the other is found by
bisection and copied, then the heads are compared one by one. On ordered arrays this is the plain
merge, which compares heads from the start. -/

namespace KernelTrace

section

variable {α : Type} {items : List α} {test : α → Bool} {place : Nat}

theorem PartsAt.holds_of_mem_take (parts : PartsAt items.toArray test place) {item : α}
    (member : item ∈ items.take place) : test item = true := by
  obtain ⟨index, bound, rfl⟩ := List.mem_take_iff_getElem.mp member
  exact parts.before index _ (by simp) (by omega)

theorem PartsAt.fails_of_drop (parts : PartsAt items.toArray test place) {item : α}
    {rest : List α} (left : items.drop place = item :: rest) : test item = false := by
  have head : items[place]? = some item := by rw [← List.head?_drop, left, List.head?_cons]
  exact parts.behind place item (by simpa using head) (Nat.le_refl _)

theorem PartsAt.takeWhile_eq (parts : PartsAt items.toArray test place) :
    items.takeWhile test = items.take place := by
  have holds : ∀ item ∈ items.take place, test item = true :=
    fun _ member => parts.holds_of_mem_take member
  conv_lhs => rw [← List.take_append_drop place items]
  rw [List.takeWhile_append_of_pos holds]
  cases left : items.drop place with
  | nil => rw [List.takeWhile_nil, List.append_nil]
  | cons item rest => rw [List.takeWhile_cons, parts.fails_of_drop left]; simp

theorem PartsAt.dropWhile_eq (parts : PartsAt items.toArray test place) :
    items.dropWhile test = items.drop place := by
  have holds : ∀ item ∈ items.take place, test item = true :=
    fun _ member => parts.holds_of_mem_take member
  conv_lhs => rw [← List.take_append_drop place items]
  rw [List.dropWhile_append_of_pos holds]
  cases left : items.drop place with
  | nil => rw [List.dropWhile_nil]
  | cons item rest => rw [List.dropWhile_cons, parts.fails_of_drop left]; simp

end

theorem parts_of_ordered {entries : List Entry} (ordered : isOrdered entries) (time : Int64) :
    PartsAt entries.toArray (fun entry => entry.ts < time)
      (leadingCount entries.toArray fun entry => entry.ts < time) := by
  apply leadingCount_parts
  intro i j a b here there order holds
  obtain ⟨inside, rfl⟩ := List.getElem?_eq_some_iff.mp (List.getElem?_toArray ▸ here)
  obtain ⟨insideToo, rfl⟩ := List.getElem?_eq_some_iff.mp (List.getElem?_toArray ▸ there)
  rcases Nat.lt_or_eq_of_le order with below | rfl
  · have notAfter :=
      List.pairwise_iff_getElem.mp (isOrdered_iff.mp ordered) i j inside insideToo below
    have early := Int64.lt_of_le_of_lt (notLater_iff.mp notAfter) (of_decide_eq_true holds)
    exact decide_eq_true early
  · exact holds

/-- Compares the heads as long as both arrays have one, then takes what is left. -/
def interleave : List Entry → List Entry → List Entry
  | x :: first, y :: second =>
    if x.ts ≤ y.ts then x :: interleave first (y :: second)
    else y :: interleave (x :: first) second
  | first, second => first ++ second
termination_by first second => first.length + second.length

theorem interleave_eq_mergeTwo (first second : List Entry) :
    interleave first second = mergeTwo first second := by
  fun_induction interleave first second with
  | case1 x first y second notAfter ih => rw [mergeTwo_cons, if_pos notAfter, ih]
  | case2 x first y second after ih => rw [mergeTwo_cons, if_neg after, ih]
  | case3 first second oneEmpty =>
      cases first with
      | nil => rw [mergeTwo_nil_left, List.nil_append]
      | cons x first =>
          cases second with
          | nil => rw [mergeTwo_nil_right, List.append_nil]
          | cons y second => exact (oneEmpty x first y second rfl rfl).elim

/-- Bisects one array for the first time of the other, copies the run before it, and compares heads
from there on. -/
def mergeRuns (first second : List Entry) : List Entry :=
  match first.head?, second.head? with
  | none, _ => second
  | _, none => first
  | some a, some b =>
    let (firstRun, secondRun) :=
      if a.ts < b.ts then (leadingCount first.toArray fun entry => entry.ts < b.ts, 0)
      else (0, leadingCount second.toArray fun entry => entry.ts < a.ts)
    first.take firstRun ++ second.take secondRun
      ++ interleave (first.drop firstRun) (second.drop secondRun)

theorem mergeRuns_eq_mergePair {first second : List Entry} (left : isOrdered first)
    (right : isOrdered second) : mergeRuns first second = mergePair first second := by
  cases first with
  | nil => cases second <;> rfl
  | cons x first =>
      cases second with
      | nil => rfl
      | cons y second =>
          simp only [mergeRuns, mergePair, List.head?_cons, List.span_eq_takeWhile_dropWhile]
          split
          · rw [(parts_of_ordered left y.ts).takeWhile_eq,
              (parts_of_ordered left y.ts).dropWhile_eq,
              interleave_eq_mergeTwo]
            simp [mergeTwo]
            rfl
          · rw [(parts_of_ordered right x.ts).takeWhile_eq,
              (parts_of_ordered right x.ts).dropWhile_eq, interleave_eq_mergeTwo]
            simp [mergeTwo]
            rfl

/-- On ordered arrays the merge with bulk copies is the plain merge, which takes from the first
array whenever its head is not later. That is the stable sort by time of the first array and then
the second: in time order, every entry of both once, each array in its own order, and at every time
the entries of the first array before those of the second. -/
theorem merging_a_pair_sorts {first second : List Entry} (left : isOrdered first)
    (right : isOrdered second) :
    mergeRuns first second = mergePair first second ∧
      mergePair first second = interleave first second ∧
      mergePair first second = (first ++ second).mergeSort notLater ∧
      isOrdered (mergePair first second) ∧
      (mergePair first second).Perm (first ++ second) ∧
      first.Sublist (mergePair first second) ∧
      second.Sublist (mergePair first second) ∧
      ∀ time, (mergePair first second).filter (·.ts = time) =
        first.filter (·.ts = time) ++ second.filter (·.ts = time) := by
  refine ⟨mergeRuns_eq_mergePair left right, ?_⟩
  rw [interleave_eq_mergeTwo, mergePair_eq_mergeTwo]
  refine ⟨rfl, ?_, mergeTwo_ordered left right, mergeTwo_perm first second,
    mergeTwo_sublist_left first second, mergeTwo_sublist_right first second,
    fun time => mergeTwo_filter_time time left right⟩
  have lanes : ∀ lane ∈ [first, second], isOrdered lane := by simp [left, right]
  have sorted := mergeLanes_eq_mergeSort lanes
  rwa [mergeLanes_cons, mergeLanes_singleton, List.flatten_cons, List.flatten_singleton] at sorted

theorem merging_tied_pair :
    isOrdered [entryAt 1 0 0, entryAt 3 0 1, entryAt 3 0 2] ∧
      isOrdered [entryAt 3 1 0, entryAt 4 1 1] ∧
      mergeRuns [entryAt 1 0 0, entryAt 3 0 1, entryAt 3 0 2] [entryAt 3 1 0, entryAt 4 1 1] =
        [entryAt 1 0 0, entryAt 3 0 1, entryAt 3 0 2, entryAt 3 1 0, entryAt 4 1 1] := by
  have left : isOrdered [entryAt 1 0 0, entryAt 3 0 1, entryAt 3 0 2] := by decide
  have right : isOrdered [entryAt 3 1 0, entryAt 4 1 1] := by decide
  have plain : interleave [entryAt 1 0 0, entryAt 3 0 1, entryAt 3 0 2]
      [entryAt 3 1 0, entryAt 4 1 1] =
        [entryAt 1 0 0, entryAt 3 0 1, entryAt 3 0 2, entryAt 3 1 0, entryAt 4 1 1] := by cbv
  obtain ⟨runs, compared, _⟩ := merging_a_pair_sorts left right
  exact ⟨left, right, runs.trans (compared.trans plain)⟩

end KernelTrace
