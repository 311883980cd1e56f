import Mathlib.Data.List.Basic
import Mathlib.Data.List.Perm.Basic

namespace KernelTrace

variable {α : Type} {le : α → α → Bool}

def tied (le : α → α → Bool) (a b : α) : Bool := le a b && le b a

theorem tied_iff {a b : α} : tied le a b = true ↔ le a b = true ∧ le b a = true :=
  Bool.and_eq_true_iff

section

variable (trans : ∀ a b c, le a b → le b c → le a c) (total : ∀ a b, le a b || le b a)

include trans total

theorem filter_mergeSort {same : α → Bool} (ties : ∀ a b, same a → same b → le a b)
    (items : List α) : (items.mergeSort le).filter same = items.filter same := by
  have flat : (items.filter same).Pairwise fun a b => le a b := by
    apply List.pairwise_of_forall_mem_list
    intro a here b there
    exact ties a b (List.mem_filter.mp here).2 (List.mem_filter.mp there).2
  -- they stay a sublist, and none of them is lost
  have kept := (List.sublist_mergeSort trans total flat List.filter_sublist).filter same
  rw [List.filter_filter] at kept
  simp only [Bool.and_self] at kept
  exact (kept.eq_of_length (((List.mergeSort_perm items le).filter same).length_eq).symm).symm

theorem pairwise_mergeSort_ties {items : List α} {before : α → α → Prop}
    (ordered : items.Pairwise before) :
    (items.mergeSort le).Pairwise fun a b => le a b ∧ (le b a → before a b) := by
  rw [List.pairwise_iff_forall_sublist]
  intro a b placed
  have below : le a b = true :=
    List.pairwise_iff_forall_sublist.mp (List.pairwise_mergeSort trans total items) placed
  refine ⟨below, fun above => ?_⟩
  have reflexive : le a a = true := by simpa using total a a
  have kept : [a, b].Sublist ((items.mergeSort le).filter (tied le a)) := by
    have both := placed.filter (tied le a)
    rwa [List.filter_eq_self.mpr fun c member => ?_] at both
    rcases List.mem_pair.mp member with rfl | rfl
    · exact tied_iff.mpr ⟨reflexive, reflexive⟩
    · exact tied_iff.mpr ⟨below, above⟩
  rw [filter_mergeSort trans total] at kept
  · exact List.pairwise_iff_forall_sublist.mp ordered (kept.trans List.filter_sublist)
  · intro c d first second
    exact trans c a d (tied_iff.mp first).2 (tied_iff.mp second).1

omit trans in
theorem mem_iff_of_ties {first second : List α} {a : α}
    (same : first.filter (tied le a) = second.filter (tied le a)) : a ∈ first ↔ a ∈ second := by
  have reflexive : tied le a a = true := by simpa [tied] using total a a
  have found := congrArg (a ∈ ·) same
  simpa [List.mem_filter, reflexive] using found

omit trans in
theorem eq_of_ordered_ties {first second : List α} (left : first.Pairwise fun a b => le a b)
    (right : second.Pairwise fun a b => le a b)
    (same : ∀ a, first.filter (tied le a) = second.filter (tied le a)) : first = second := by
  induction first generalizing second with
  | nil =>
      symm
      rw [List.eq_nil_iff_forall_not_mem]
      exact fun a member => List.not_mem_nil ((mem_iff_of_ties total (same a)).mpr member)
  | cons x first ih =>
      have here := (mem_iff_of_ties total (same x)).mp List.mem_cons_self
      cases second with
      | nil => exact absurd here List.not_mem_nil
      | cons y second =>
          have there := (mem_iff_of_ties total (same y)).mpr List.mem_cons_self
          have reflexive : ∀ a, le a a = true := fun a => by simpa using total a a
          obtain ⟨fromX, leftRest⟩ := List.pairwise_cons.mp left
          obtain ⟨fromY, rightRest⟩ := List.pairwise_cons.mp right
          have xy : le x y = true := by
            rcases List.mem_cons.mp there with rfl | inside
            · exact reflexive y
            · exact fromX y inside
          have yx : le y x = true := by
            rcases List.mem_cons.mp here with rfl | inside
            · exact reflexive x
            · exact fromY x inside
          -- the heads are tied, so both lead the same list of ties
          have heads := same x
          rw [List.filter_cons_of_pos (tied_iff.mpr ⟨reflexive x, reflexive x⟩),
            List.filter_cons_of_pos (tied_iff.mpr ⟨xy, yx⟩)] at heads
          obtain ⟨rfl, _⟩ := List.cons.inj heads
          refine congrArg (x :: ·) (ih leftRest rightRest fun a => ?_)
          have all := same a
          rw [List.filter_cons, List.filter_cons] at all
          split at all
          · exact (List.cons.inj all).2
          · exact all

/-- The sorted list is the only one that is ordered and leaves ties as they stand. -/
theorem eq_mergeSort {items sorted : List α} (ordered : sorted.Pairwise fun a b => le a b)
    (same : ∀ a, sorted.filter (tied le a) = items.filter (tied le a)) :
    sorted = items.mergeSort le := by
  apply eq_of_ordered_ties total ordered (List.pairwise_mergeSort trans total items)
  intro a
  rw [same, filter_mergeSort trans total]
  intro c d first second
  exact trans c a d (tied_iff.mp first).2 (tied_iff.mp second).1

end

end KernelTrace
