import KernelTrace.Query.Collection

namespace KernelTrace

structure CollectionStore (K : Type) where
  collections : List (Collection K) := []

namespace CollectionStore

variable {K : Type}

def size (store : CollectionStore K) : Nat := store.collections.length

def isEmpty (store : CollectionStore K) : Bool := store.collections.isEmpty

def resetStream (store : CollectionStore K) (stream : Handle) : CollectionStore K :=
  ⟨store.collections.map fun collection =>
    if collection.key.stream = stream then collection.reset else collection⟩

def resetStreams (store : CollectionStore K) (streams : List Handle) : CollectionStore K :=
  streams.foldl resetStream store

def resetAll (store : CollectionStore K) : CollectionStore K :=
  ⟨store.collections.map Collection.reset⟩

def removeStream (store : CollectionStore K) (stream : Handle) : CollectionStore K :=
  ⟨store.collections.filter (·.key.stream ≠ stream)⟩

def isWasteful (collection : Collection K) : Bool :=
  collection.isValid && !collection.isUseful

def dropDense (store : CollectionStore K) : Nat × CollectionStore K :=
  (store.collections.countP isWasteful,
   ⟨store.collections.map fun collection =>
     if isWasteful collection then collection.reset else collection⟩)

variable [DecidableEq K]

def find? (store : CollectionStore K) (key : CollectionSpec K) : Option (Collection K) :=
  store.collections.find? (·.key = key)

def contains (store : CollectionStore K) (key : CollectionSpec K) : Bool :=
  (store.find? key).isSome

def put (store : CollectionStore K) (collection : Collection K) : CollectionStore K :=
  ⟨store.collections.map fun other => if other.key = collection.key then collection else other⟩

def remove (store : CollectionStore K) (key : CollectionSpec K) :
    Except Fault (CollectionStore K) :=
  if store.contains key then .ok ⟨store.collections.filter (·.key ≠ key)⟩
  else .error .notRegistered

def reset (store : CollectionStore K) (key : CollectionSpec K) :
    Except Fault (CollectionStore K) :=
  match store.find? key with
  | none => .error .notRegistered
  | some collection => .ok (store.put collection.reset)

variable [Condition K]

/-- A key that is registered already keeps its collection. -/
def add (store : CollectionStore K) (key : CollectionSpec K) (entries : List Entry) :
    CollectionStore K :=
  if store.contains key then store
  else ⟨store.collections ++ [Collection.build key entries]⟩

def query (store : CollectionStore K) (key : CollectionSpec K) (entries : List Entry)
    (ask : Collection K → Option Nat) : Except Fault (Option Nat × CollectionStore K) :=
  match store.find? key with
  | none => .error .notRegistered
  | some collection =>
    (collection.refresh entries).map fun fresh => (ask fresh, store.put fresh)

def firstFrom (store : CollectionStore K) (key : CollectionSpec K) (entries : List Entry)
    (window : Window) : Except Fault (Option Nat × CollectionStore K) :=
  store.query key entries (·.firstFrom window)

def lastUpTo (store : CollectionStore K) (key : CollectionSpec K) (entries : List Entry)
    (window : Window) : Except Fault (Option Nat × CollectionStore K) :=
  store.query key entries (·.lastUpTo window)

end CollectionStore

end KernelTrace
