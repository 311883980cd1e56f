import KernelTrace.Fault
import KernelTrace.Query.Selector
import KernelTrace.Query.Scan
import KernelTrace.Timeline

/-! Collections: the positions of the visible entries that match a key, for quick lookups. -/

namespace KernelTrace

/-- The highest position. Sums of positions stop there. -/
def maxPosition : Nat := UInt64.size - 1

structure CollectionSpec (K : Type) where
  selector : Selector K
  stream : Handle
  args : List Int32
  mask : UInt8
  margin : Nat
  deriving DecidableEq, Repr

/-- Positions in ascending order, out of the first `covered` entries. -/
structure PositionIndex where
  positions : Array Nat
  covered : Nat
  deriving DecidableEq, Repr

/-- A collection without an index takes one from the entries of the next query. -/
structure Collection (K : Type) where
  key : CollectionSpec K
  index : Option PositionIndex
  deriving DecidableEq, Repr

def smallDataset : Nat := 1000000

def denseRatio : Nat := 100

namespace CollectionSpec

variable {K : Type} [Condition K]

def accepts (key : CollectionSpec K) (entry : Entry) : Bool :=
  key.selector.selects entry key.stream key.args && entry.isVisible key.mask

def positions (key : CollectionSpec K) (entries : List Entry) : List Nat :=
  entries.zipIdx.filterMap fun (entry, position) =>
    if key.accepts entry then some position else none

def indexOf (key : CollectionSpec K) (entries : List Entry) : PositionIndex :=
  ⟨(key.positions entries).toArray, entries.length⟩

end CollectionSpec

namespace Collection

variable {K : Type}

def isValid (collection : Collection K) : Bool := collection.index.isSome

def positions (collection : Collection K) : Array Nat :=
  collection.index.elim #[] (·.positions)

def covered (collection : Collection K) : Nat := collection.index.elim 0 (·.covered)

def size (collection : Collection K) : Nat := collection.positions.size

def isEmpty (collection : Collection K) : Bool := collection.positions.isEmpty

/-- Dense positions over a small dataset save little over searching the entries. -/
def isUseful (collection : Collection K) : Bool :=
  smallDataset ≤ collection.covered || collection.isEmpty ||
    denseRatio ≤ collection.covered / collection.size

def build [Condition K] (key : CollectionSpec K) (entries : List Entry) : Collection K :=
  ⟨key, some (key.indexOf entries)⟩

def reset (collection : Collection K) : Collection K := { collection with index := none }

def refresh [Condition K] (collection : Collection K) (entries : List Entry) :
    Except Fault (Collection K) :=
  match collection.index with
  | none => .ok (build collection.key entries)
  | some index =>
    if index.covered = entries.length then .ok collection
    else .error (.stale index.covered entries.length)

/-- The first position from the start of the window to the margin past its end. -/
def firstFrom (collection : Collection K) (window : Window) : Option Nat :=
  if window.count = 0 then none
  else
    let limit := min (window.first + window.count + collection.key.margin) maxPosition
    let place := leadingCount collection.positions fun position => position < window.first
    collection.positions[place]?.filter (· < limit)

/-- The last position up to `first`, no further back than the window and the margin reach. -/
def lastUpTo (collection : Collection K) (window : Window) : Option Nat :=
  if window.count = 0 then none
  else
    let reach := min (window.count + collection.key.margin) maxPosition
    let start := min (window.first + 1) maxPosition - reach
    let place := leadingCount collection.positions fun position => position ≤ window.first
    if place = 0 then none
    else collection.positions[place - 1]?.filter (start ≤ ·)

end Collection

end KernelTrace
