import KernelTrace.Entry

/-! Entry lists in time order: searching them by bisection, and merging them. On equal times the list
further left goes first. -/

namespace KernelTrace

def isOrdered : List Entry → Bool
  | first :: second :: rest => first.ts ≤ second.ts && isOrdered (second :: rest)
  | _ => true

section

variable {α : Type}

def bisect (xs : Array α) (test : α → Bool) (base size : Nat) (inside : base + size ≤ xs.size) :
    Nat :=
  if many : 1 < size then
    have middle : base + size / 2 < xs.size := by omega
    if test xs[base + size / 2] then
      bisect xs test (base + size / 2) (size - size / 2) (by omega)
    else
      bisect xs test base (size - size / 2) (by omega)
  else if single : size = 1 then
    have lone : base < xs.size := by omega
    if test xs[base] then base + 1 else base
  else base
termination_by size

def leadingCount (xs : Array α) (test : α → Bool) : Nat :=
  bisect xs test 0 xs.size (by omega)

end

inductive TimePlace
  | entry (index : Nat)
  | beforeAll
  | afterAll
  deriving DecidableEq, Repr

def placeOf (entries : List Entry) (time : Int64) : TimePlace :=
  match entries.head?, entries.getLast? with
  | some first, some last =>
    if time < first.ts then .beforeAll
    else if last.ts < time then .afterAll
    else .entry (leadingCount entries.toArray fun entry => entry.ts < time)
  | _, _ => .afterAll

/-- The earliest head among the lanes, and the lanes without it. -/
def takeEarliest : List (List Entry) → Option (Entry × List (List Entry))
  | [] => none
  | [] :: lanes => (takeEarliest lanes).map fun (entry, rest) => (entry, [] :: rest)
  | (entry :: lane) :: lanes =>
    match takeEarliest lanes with
    | none => some (entry, lane :: lanes)
    | some (other, rest) =>
      if other.ts < entry.ts then some (other, (entry :: lane) :: rest)
      else some (entry, lane :: lanes)

def totalLength (lanes : List (List Entry)) : Nat := lanes.flatten.length

theorem takeEarliest_length {lanes rest : List (List Entry)} {entry : Entry}
    (taken : takeEarliest lanes = some (entry, rest)) :
    totalLength lanes = totalLength rest + 1 := by
  induction lanes generalizing entry rest with
  | nil => simp [takeEarliest] at taken
  | cons lane lanes ih =>
      cases lane with
      | nil =>
          simp only [takeEarliest, Option.map_eq_some_iff, Prod.mk.injEq] at taken
          obtain ⟨⟨found, remaining⟩, inner, rfl, rfl⟩ := taken
          simpa [totalLength] using ih inner
      | cons head lane =>
          simp only [takeEarliest] at taken
          split at taken
          · simp only [Option.some.injEq, Prod.mk.injEq] at taken
            obtain ⟨rfl, rfl⟩ := taken
            simp [totalLength]
          · rename_i other remaining inner
            have shorter := ih inner
            split at taken
            · simp only [Option.some.injEq, Prod.mk.injEq] at taken
              obtain ⟨rfl, rfl⟩ := taken
              simp [totalLength] at shorter ⊢
              omega
            · simp only [Option.some.injEq, Prod.mk.injEq] at taken
              obtain ⟨rfl, rfl⟩ := taken
              simp [totalLength]

def mergeLanes (lanes : List (List Entry)) : List Entry :=
  match _taken : takeEarliest lanes with
  | none => []
  | some (entry, rest) => entry :: mergeLanes rest
termination_by totalLength lanes
decreasing_by
  have shorter := takeEarliest_length _taken
  omega

/-- Copies the run of one list that precedes the other list, then merges what is left. Both lists are
in time order: in lists that are not, bisection may find another run. -/
def mergePair : List Entry → List Entry → List Entry
  | [], second => second
  | first, [] => first
  | a :: first, b :: second =>
    let earlier (bound entry : Entry) : Bool := entry.ts < bound.ts
    let notLater (x y : Entry) : Bool := x.ts ≤ y.ts
    if a.ts < b.ts then
      let (run, rest) := (a :: first).span (earlier b)
      run ++ rest.merge (b :: second) notLater
    else
      let (run, rest) := (b :: second).span (earlier a)
      run ++ (a :: first).merge rest notLater

end KernelTrace
