import KernelTrace.Entry
import KernelTrace.Fault

namespace KernelTrace

/-- A step of a plugin: it may change the plugin's own state, and that change outlives a panic. -/
abbrev Hosted (σ : Type) := ExceptT Panic (StateM σ)

structure Region where
  stream : Handle
  entries : List Entry
  first : Nat
  count : Nat

class Plugin (H : Type) (σ : outParam Type) where
  seeRecord : H → Record → Entry → Hosted σ Entry
  seeRegion : H → Region → Hosted σ Unit := fun _ _ => pure ()

structure Hook (H : Type) where
  eventId : Int32
  stream : Handle
  plugin : H
  deriving DecidableEq, Repr

def Hook.answers {H : Type} (hook : Hook H) (stream : Handle) (eventId : Int32) : Bool :=
  hook.eventId = eventId && hook.stream = stream

structure HookTable (H : Type) where
  hooks : List (Hook H) := []

namespace HookTable

variable {H σ : Type}

def size (table : HookTable H) : Nat := table.hooks.length

def isEmpty (table : HookTable H) : Bool := table.hooks.isEmpty

def add (table : HookTable H) (eventId : Int32) (stream : Handle) (plugin : H) :
    HookTable H :=
  ⟨table.hooks ++ [⟨eventId, stream, plugin⟩]⟩

def remove [DecidableEq H] (table : HookTable H) (eventId : Int32) (stream : Handle)
    (plugin : H) : Nat × HookTable H :=
  let kept := table.hooks.filter (· ≠ ⟨eventId, stream, plugin⟩)
  (table.size - kept.length, ⟨kept⟩)

def removeStream (table : HookTable H) (stream : Handle) : HookTable H :=
  ⟨table.hooks.filter (·.stream ≠ stream)⟩

/-- Fires, in order, each hook that answers to the entry as the earlier ones left it. -/
def fire [Plugin H σ] (record : Record) :
    List (Hook H) → Entry → Hosted σ (List (Hook H) × Entry)
  | [], entry => pure ([], entry)
  | hook :: rest, entry =>
    if hook.answers entry.stream entry.eventId then do
      let entry ← Plugin.seeRecord hook.plugin record entry
      let (fired, entry) ← fire record rest entry
      pure (hook :: fired, entry)
    else fire record rest entry

/-- Shows the record to the hooks; gives the hooks that fired and the final entry. -/
def dispatch [Plugin H σ] (table : HookTable H) (record : Record) (entry : Entry) :
    Hosted σ (List (Hook H) × Entry) :=
  fire record table.hooks entry

def draw [Plugin H σ] (table : HookTable H) (stream : Handle) (eventId : Int32)
    (region : Region) : Hosted σ Nat := do
  let called := table.hooks.filter (·.answers stream eventId)
  called.forM fun hook => Plugin.seeRegion hook.plugin region
  pure called.length

def details (table : HookTable H) : String :=
  Text.brackets (table.hooks.map fun hook =>
    "(" ++ toString hook.eventId ++ ", " ++ hook.stream.details ++ ")")

end HookTable

end KernelTrace
