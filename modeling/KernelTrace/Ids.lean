import KernelTrace.Text

/-! Sets of ids, and names by id. Both are kept in ascending order of the ids. -/

namespace KernelTrace

section

variable {α : Type} {key : α → Int32} {item other : α} {items : List α}

/-- Puts an item in its place among others in order of their keys. It replaces the one that has its
key. -/
def placeByKey (key : α → Int32) (item : α) : List α → List α
  | [] => [item]
  | head :: tail =>
    if key item < key head then item :: head :: tail
    else if key item = key head then item :: tail
    else head :: placeByKey key item tail

theorem mem_placeByKey (ascending : items.Pairwise fun a b => key a < key b) :
    other ∈ placeByKey key item items ↔ other = item ∨ other ∈ items ∧ key other ≠ key item := by
  induction items with
  | nil => simp [placeByKey]
  | cons head tail ih =>
      obtain ⟨above, ascending⟩ := List.pairwise_cons.mp ascending
      grind [placeByKey]

theorem placeByKey_ascending (ascending : items.Pairwise fun a b => key a < key b) :
    (placeByKey key item items).Pairwise fun a b => key a < key b := by
  induction items with
  | nil => exact List.pairwise_singleton _ _
  | cons head tail ih =>
      obtain ⟨above, ascending⟩ := List.pairwise_cons.mp ascending
      unfold placeByKey
      split
      · rename_i below
        refine List.pairwise_cons.mpr ⟨?_, List.pairwise_cons.mpr ⟨above, ascending⟩⟩
        exact List.forall_mem_cons.mpr
          ⟨below, fun other member => Int32.lt_trans below (above other member)⟩
      · split
        · rename_i same
          exact List.pairwise_cons.mpr ⟨same ▸ above, ascending⟩
        · rename_i notBelow different
          refine List.pairwise_cons.mpr ⟨fun other member => ?_, ih ascending⟩
          rcases (mem_placeByKey ascending).mp member with rfl | ⟨member, _⟩
          · exact Int32.lt_of_le_of_ne (Int32.not_lt.mp notBelow) (Ne.symm different)
          · exact above other member

end

structure IdSet where
  ids : List Int32
  ascending : ids.Pairwise (· < ·)
  deriving DecidableEq

namespace IdSet

def empty : IdSet := ⟨[], .nil⟩

instance : EmptyCollection IdSet := ⟨empty⟩

instance : Inhabited IdSet := ⟨empty⟩

def insert (set : IdSet) (id : Int32) : IdSet :=
  ⟨placeByKey (fun id => id) id set.ids, placeByKey_ascending set.ascending⟩

def contains (set : IdSet) (id : Int32) : Bool := set.ids.contains id

def isEmpty (set : IdSet) : Bool := set.ids.isEmpty

def size (set : IdSet) : Nat := set.ids.length

def insertMany (set : IdSet) (ids : List Int32) : IdSet := ids.foldl insert set

def ofList (ids : List Int32) : IdSet := insertMany ∅ ids

def union (first second : IdSet) : IdSet := first.insertMany second.ids

def details (set : IdSet) : String :=
  Text.fields "IdFilter" [("ids", Text.braces (set.ids.map toString))]

end IdSet

structure NameTable where
  names : List (Int32 × String)
  ascending : names.Pairwise fun a b => a.1 < b.1
  deriving DecidableEq

namespace NameTable

def empty : NameTable := ⟨[], .nil⟩

instance : EmptyCollection NameTable := ⟨empty⟩

instance : Inhabited NameTable := ⟨empty⟩

def insert (table : NameTable) (id : Int32) (name : String) : NameTable :=
  ⟨placeByKey Prod.fst (id, name) table.names, placeByKey_ascending table.ascending⟩

def find? (table : NameTable) (id : Int32) : Option String := table.names.lookup id

def ofList (names : List (Int32 × String)) : NameTable :=
  names.foldl (fun table (id, name) => table.insert id name) ∅

end NameTable

end KernelTrace
