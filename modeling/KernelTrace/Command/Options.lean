import KernelTrace.Text

namespace KernelTrace

inductive CommandName
  | dump
  | tasks
  | stats
  deriving DecidableEq, Repr

def CommandName.ofWord? (word : String) : Option CommandName :=
  if word = "dump" then some dump
  else if word = "tasks" then some tasks
  else if word = "stats" then some stats
  else none

inductive OptionName
  | config
  | trace
  | offset
  | hidePid
  | showEvent
  | hideCpu
  | all
  | limit
  deriving DecidableEq, Repr

structure OptionSpec where
  name : OptionName
  long : String
  short : Option Char := none
  takesValue : Bool := true
  allowsNegative : Bool := false
  deriving DecidableEq, Repr

def OptionSpec.config : OptionSpec := ⟨.config, "config", some 'c', true, false⟩

def OptionSpec.trace : OptionSpec := ⟨.trace, "trace", some 't', true, false⟩

def optionSpecs : Option CommandName → List OptionSpec
  | none => [.config]
  | some .tasks => [.config, .trace]
  | some .stats => [.config, .trace]
  | some .dump =>
    [.config, .trace, ⟨.offset, "offset", none, true, true⟩,
     ⟨.hidePid, "hide-pid", none, true, false⟩, ⟨.showEvent, "show-event", none, true, false⟩,
     ⟨.hideCpu, "hide-cpu", none, true, false⟩, ⟨.all, "all", some 'a', false, false⟩,
     ⟨.limit, "limit", some 'n', true, false⟩]

structure Options where
  config : Option String := none
  traces : List String := []
  offsets : List Int64 := []
  hidePids : List Int32 := []
  showEvents : List Int32 := []
  hideCpus : List Int32 := []
  all : Bool := false
  limit : Option Nat := none
  deriving DecidableEq, Repr

def intWithin? (low high : Int) (value : List Char) : Option Int :=
  (Decimal.toInt? value).bind fun n => if low ≤ n && n ≤ high then some n else none

def int64Value? (value : List Char) : Option Int64 :=
  (intWithin? Int64.minValue.toInt Int64.maxValue.toInt value).map Int64.ofInt

def int32Value? (value : List Char) : Option Int32 :=
  (intWithin? Int32.minValue.toInt Int32.maxValue.toInt value).map Int32.ofInt

/-- A count takes no minus sign, not even before a zero. -/
def countValue? (value : List Char) : Option Nat :=
  if value.head? = some '-' then none
  else (intWithin? 0 (UInt64.size - 1) value).map Int.toNat

def pathValue? (value : List Char) : Option String :=
  if value.isEmpty then none else some (String.ofList value)

/-- Takes one more option. Only some options of `dump` may be given twice. -/
def Options.add? (options : Options) (command : Option CommandName) (name : OptionName)
    (value : List Char) : Option Options :=
  match name with
  | .config =>
    if options.config.isSome then none
    else (pathValue? value).map fun path => { options with config := some path }
  | .trace =>
    if command ≠ some .dump && !options.traces.isEmpty then none
    else (pathValue? value).map fun path => { options with traces := options.traces ++ [path] }
  | .offset =>
    (int64Value? value).map fun shift => { options with offsets := options.offsets ++ [shift] }
  | .hidePid =>
    (int32Value? value).map fun pid => { options with hidePids := options.hidePids ++ [pid] }
  | .showEvent =>
    (int32Value? value).map fun id => { options with showEvents := options.showEvents ++ [id] }
  | .hideCpu =>
    (int32Value? value).map fun cpu => { options with hideCpus := options.hideCpus ++ [cpu] }
  | .all => if options.all then none else some { options with all := true }
  | .limit =>
    if options.limit.isSome then none
    else (countValue? value).map fun count => { options with limit := some count }

end KernelTrace
