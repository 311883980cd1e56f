import KernelTrace.Query.Selector

namespace KernelTrace

/-- `count` positions from `first` on, towards later or earlier entries. -/
structure Window where
  first : Nat
  count : Nat
  deriving DecidableEq, Repr

namespace Window

variable {α : Type}

def ahead (window : Window) (items : List α) : List α :=
  (items.drop window.first).take window.count

/-- The items from `first` towards earlier ones. There are none from past the end. -/
def behind (window : Window) (items : List α) : List α :=
  if items.length ≤ window.first then []
  else ((items.take (window.first + 1)).drop (window.first + 1 - window.count)).reverse

end Window

structure Scan (K : Type) where
  window : Window
  selector : Selector K
  stream : Handle
  args : List Int32
  visibleOnly : Bool
  mask : UInt8
  deriving DecidableEq, Repr

/-- `filtered` says that some entry matches but none that does is visible. -/
inductive ScanOutcome
  | found (index : Nat)
  | filtered
  | empty
  deriving DecidableEq, Repr

def ScanOutcome.index? : ScanOutcome → Option Nat
  | found index => some index
  | _ => none

namespace Scan

variable {K : Type} [Condition K]

def accepts (scan : Scan K) (entry : Entry) : Bool :=
  scan.selector.selects entry scan.stream scan.args

def search (scan : Scan K) (outcome : ScanOutcome) : List (Entry × Nat) → ScanOutcome
  | [] => outcome
  | (entry, index) :: rest =>
    if scan.accepts entry then
      if scan.visibleOnly && !entry.isVisible scan.mask then scan.search .filtered rest
      else .found index
    else scan.search outcome rest

def firstFrom (scan : Scan K) (entries : List Entry) : ScanOutcome :=
  scan.search .empty (scan.window.ahead entries.zipIdx)

def lastUpTo (scan : Scan K) (entries : List Entry) : ScanOutcome :=
  scan.search .empty (scan.window.behind entries.zipIdx)

end Scan

end KernelTrace
