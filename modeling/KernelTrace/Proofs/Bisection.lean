import KernelTrace.Timeline

namespace KernelTrace

variable {α : Type} {xs : Array α} {test : α → Bool} {last : α} {place : Nat}

/-- The test holds of the members before the place and fails of those from there on. -/
structure PartsAt (xs : Array α) (test : α → Bool) (place : Nat) : Prop where
  before : ∀ (index : Nat) (member : α), xs[index]? = some member → index < place →
    test member = true
  behind : ∀ (index : Nat) (member : α), xs[index]? = some member → place ≤ index →
    test member = false

def GivesWay (xs : Array α) (test : α → Bool) : Prop :=
  ∀ (i j : Nat) (a b : α), xs[i]? = some a → xs[j]? = some b → i ≤ j → test b = true →
    test a = true

theorem PartsAt.lt_iff (parts : PartsAt xs test place) {index : Nat} {member : α}
    (found : xs[index]? = some member) : index < place ↔ test member = true := by
  have before := parts.before index member found
  have behind := parts.behind index member found
  constructor
  · exact before
  · intro holds
    apply Nat.lt_of_not_le
    intro above
    rw [behind above] at holds
    cases holds

theorem bisect_parts (givesWay : GivesWay xs test) {base size : Nat}
    (inside : base + size ≤ xs.size)
    (before : ∀ (index : Nat) (member : α), xs[index]? = some member → index < base →
      test member = true)
    (behind : ∀ (index : Nat) (member : α), xs[index]? = some member → base + size ≤ index →
      test member = false) :
    PartsAt xs test (bisect xs test base size inside) := by
  -- every half that is searched on has only passes before it and only failures behind it
  fun_induction bisect xs test base size inside with
  | case1 base size inside many middle holds ih =>
      have here := Array.getElem?_eq_getElem middle
      apply ih
      · intro index member found below
        exact givesWay _ _ _ _ found here (by omega) holds
      · intro index member found above
        exact behind index member found (by omega)
  | case2 base size inside many middle fails ih =>
      have here := Array.getElem?_eq_getElem middle
      apply ih before
      intro index member found above
      rw [Bool.eq_false_iff]
      intro holds
      exact fails (givesWay _ _ _ _ here found (by omega) holds)
  | case3 base inside many lone holds =>
      have here := Array.getElem?_eq_getElem lone
      constructor
      · intro index member found below
        exact givesWay _ _ _ _ found here (by omega) holds
      · intro index member found above
        exact behind index member found above
  | case4 base inside many lone fails =>
      have here := Array.getElem?_eq_getElem lone
      refine ⟨before, ?_⟩
      intro index member found above
      rw [Bool.eq_false_iff]
      intro holds
      exact fails (givesWay _ _ _ _ here found above holds)
  | case5 base size inside many single =>
      refine ⟨before, ?_⟩
      intro index member found above
      exact behind index member found (by omega)

theorem bisect_le {base size : Nat} (inside : base + size ≤ xs.size) :
    bisect xs test base size inside ≤ base + size := by
  fun_induction bisect xs test base size inside <;> omega

theorem bisect_lt {base size : Nat} (inside : base + size ≤ xs.size) (filled : 0 < size)
    (ends : xs[base + size - 1]? = some last) (fails : test last = false) :
    bisect xs test base size inside < base + size := by
  -- the half that is searched on ends with the same member, or short of it
  fun_induction bisect xs test base size inside with
  | case1 base size inside many middle holds ih =>
      have ending : base + size / 2 + (size - size / 2) = base + size := by omega
      rw [ending] at ih
      exact ih (by omega) ends
  | case2 base size inside many middle _ _ =>
      have bound : bisect xs test base (size - size / 2) (by omega) ≤ base + (size - size / 2) :=
        bisect_le _
      omega
  | case3 base inside many lone holds =>
      have here := Array.getElem?_eq_getElem lone
      rw [Nat.add_sub_cancel, here, Option.some.injEq] at ends
      rw [ends, fails] at holds
      cases holds
  | case4 base inside many lone _ => exact Nat.lt_succ_self base
  | case5 base size inside many single => omega

theorem leadingCount_le (xs : Array α) (test : α → Bool) : leadingCount xs test ≤ xs.size := by
  rw [leadingCount]
  have bound : bisect xs test 0 xs.size (by omega) ≤ 0 + xs.size := bisect_le _
  omega

theorem leadingCount_lt (ends : xs[xs.size - 1]? = some last) (fails : test last = false) :
    leadingCount xs test < xs.size := by
  have filled : xs.size - 1 < xs.size := (Array.getElem?_eq_some_iff.mp ends).1
  have ending : xs[0 + xs.size - 1]? = some last := by rwa [Nat.zero_add]
  have bound : bisect xs test 0 xs.size (by omega) < 0 + xs.size :=
    bisect_lt _ (by omega) ending fails
  rw [leadingCount]
  omega

theorem leadingCount_parts (givesWay : GivesWay xs test) :
    PartsAt xs test (leadingCount xs test) := by
  apply bisect_parts givesWay
  · intro index member _ below
    omega
  · intro index member found above
    have inside := (Array.getElem?_eq_some_iff.mp found).1
    omega

end KernelTrace
