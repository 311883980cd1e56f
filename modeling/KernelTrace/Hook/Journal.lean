import KernelTrace.Hook.Table

/-! Ready-made hooks that make one change to an entry and keep a journal of what they saw. -/

namespace KernelTrace

inductive Edit
  | keep
  /-- The first four bytes of the record's data, lowest first, become the pid. -/
  | nextPid
  | setPid (pid : Int32)
  | addPid (pid : Int32)
  | setEvent (eventId : Int32)
  | setCpu (cpu : Int32)
  | setOffset (offset : UInt64)
  | setVisible (visible : UInt8)
  | setStream (stream : Handle)
  | shiftTime (shift : Int64)
  | panics (payload : String)
  deriving DecidableEq, Repr

def wordOfBytes (a b c d : UInt8) : Int32 :=
  (a.toUInt32 ||| b.toUInt32 <<< 8 ||| c.toUInt32 <<< 16 ||| d.toUInt32 <<< 24).toInt32

def Edit.apply (record : Record) (entry : Entry) : Edit → Except Panic Entry
  | keep => .ok entry
  | nextPid =>
    match record.data with
    | a :: b :: c :: d :: _ => .ok { entry with pid := wordOfBytes a b c d }
    | _ => .ok entry
  | setPid pid => .ok { entry with pid }
  | addPid pid => .ok { entry with pid := entry.pid + pid }
  | setEvent eventId => .ok { entry with eventId }
  | setCpu cpu => .ok { entry with cpu }
  | setOffset offset => .ok { entry with offset }
  | setVisible visible => .ok { entry with visible }
  | setStream stream => .ok { entry with stream }
  | shiftTime shift => .ok { entry with ts := entry.ts + shift }
  | panics payload => .error ⟨payload⟩

inductive JournalLine
  | recorded (label : String) (offset : UInt64) (eventId : Int32)
  | drawn (label : String) (stream : Handle) (first count size : Nat)
  deriving DecidableEq, Repr

def JournalLine.text : JournalLine → String
  | recorded label offset eventId =>
    "rec " ++ label ++ " " ++ toString offset ++ " " ++ toString eventId
  | drawn label stream first count size =>
    "draw " ++ label ++ " " ++ stream.label ++ " " ++ toString first ++ " " ++ toString count
      ++ " " ++ toString size

/-- Plugins with the same serial number are the same. A silent one writes no journal. -/
structure JournalPlugin where
  serial : Nat
  label : String
  edit : Edit
  silent : Bool := false
  deriving DecidableEq, Repr

namespace JournalPlugin

def note (plugin : JournalPlugin) (line : JournalLine) : Hosted (List JournalLine) Unit :=
  if plugin.silent then pure () else modify (· ++ [line])

instance : Plugin JournalPlugin (List JournalLine) where
  seeRecord plugin record entry := do
    plugin.note (.recorded plugin.label record.offset entry.eventId)
    ExceptT.mk (pure (plugin.edit.apply record entry))
  seeRegion plugin region :=
    plugin.note
      (.drawn plugin.label region.stream region.first region.count region.entries.length)

end JournalPlugin

end KernelTrace
