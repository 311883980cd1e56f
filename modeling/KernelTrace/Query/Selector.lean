import KernelTrace.Entry

namespace KernelTrace

class Condition (K : Type) where
  holds : K → Entry → Handle → List Int32 → Bool

/-- The built-in conditions ask for an entry of the stream with one of the given ids. -/
inductive Criterion (K : Type)
  | pid
  | cpu
  | eventId
  | custom (condition : K)
  deriving DecidableEq, Repr

def Criterion.holds {K : Type} [Condition K] (criterion : Criterion K) (entry : Entry)
    (stream : Handle) (args : List Int32) : Bool :=
  match criterion with
  | pid => entry.stream = stream && args.contains entry.pid
  | cpu => entry.stream = stream && args.contains entry.cpu
  | eventId => entry.stream = stream && args.contains entry.eventId
  | custom condition => Condition.holds condition entry stream args

/-- Two selectors are the same when both their names and their conditions are. -/
structure Selector (K : Type) where
  name : String
  criterion : Criterion K
  deriving DecidableEq, Repr

namespace Selector

variable {K : Type}

def pid : Selector K := ⟨"pid", .pid⟩

def cpu : Selector K := ⟨"cpu", .cpu⟩

def eventId : Selector K := ⟨"event_id", .eventId⟩

def selects [Condition K] (selector : Selector K) (entry : Entry) (stream : Handle)
    (args : List Int32) : Bool :=
  selector.criterion.holds entry stream args

def details (selector : Selector K) : String := "Matcher(" ++ selector.name ++ ")"

end Selector

inductive ExtraCondition
  | always
  | never
  | lost
  | pidRange
  deriving DecidableEq, Repr

instance : Condition ExtraCondition where
  holds
    | .always, _, _, _ => true
    | .never, _, _, _ => false
    | .lost, entry, stream, _ => entry.stream = stream && entry.isLost
    | .pidRange, entry, stream, [low, high] =>
      entry.stream = stream && low ≤ entry.pid && entry.pid ≤ high
    | .pidRange, _, _, _ => false

end KernelTrace
