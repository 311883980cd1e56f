import KernelTrace.Ids
import Mathlib.Data.List.Basic

namespace KernelTrace.IdSet

variable {set first second : IdSet} {ids : List Int32} {id other : Int32}

theorem not_mem_empty : id ∉ (∅ : IdSet).ids := List.not_mem_nil

@[simp] theorem mem_insert : id ∈ (set.insert other).ids ↔ id = other ∨ id ∈ set.ids := by
  rw [insert, mem_placeByKey set.ascending, or_and_left, and_iff_left (em _)]

theorem contains_iff : set.contains id ↔ id ∈ set.ids := List.contains_iff_mem

@[simp] theorem mem_insertMany : id ∈ (set.insertMany ids).ids ↔ id ∈ set.ids ∨ id ∈ ids := by
  induction ids generalizing set with
  | nil => simp [insertMany]
  | cons head tail ih =>
      have rest : id ∈ (set.insertMany (head :: tail)).ids ↔
          id ∈ (set.insert head).ids ∨ id ∈ tail := ih
      rw [rest, mem_insert, List.mem_cons, or_assoc, or_left_comm]

@[simp] theorem mem_ofList : id ∈ (ofList ids).ids ↔ id ∈ ids := by
  rw [ofList, mem_insertMany, or_iff_right not_mem_empty]

@[simp] theorem mem_union : id ∈ (first.union second).ids ↔ id ∈ first.ids ∨ id ∈ second.ids :=
  mem_insertMany

theorem eq_of_mem_iff (same : ∀ id, id ∈ first.ids ↔ id ∈ second.ids) : first = second := by
  obtain ⟨ids, ascending⟩ := first
  obtain ⟨others, ascendingToo⟩ := second
  have perm : ids.Perm others :=
    (List.perm_ext_iff_of_nodup (ascending.imp Int32.ne_of_lt)
      (ascendingToo.imp Int32.ne_of_lt)).mpr same
  have equal : ids = others := by
    refine perm.eq_of_pairwise ?_ ascending ascendingToo
    intro a b _ _ below above
    exact absurd (Int32.lt_trans below above) Int32.lt_irrefl
  simp only [equal]

theorem eq_empty_iff : set = ∅ ↔ ∀ id, id ∉ set.ids := by
  constructor
  · rintro rfl id
    exact not_mem_empty
  · intro none
    exact eq_of_mem_iff fun id => iff_of_false (none id) not_mem_empty

theorem isEmpty_iff : set.isEmpty ↔ set = ∅ := by
  rw [eq_empty_iff, isEmpty, List.isEmpty_iff, List.eq_nil_iff_forall_not_mem]

theorem union_union : (first.union second).union second = first.union second := by
  apply eq_of_mem_iff
  simp

end KernelTrace.IdSet
