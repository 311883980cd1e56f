import KernelTrace.Json.Decode
import KernelTrace.Json.Printer
import KernelTrace.Trace.Document

namespace KernelTrace

structure Settings where
  /-- The bits that task and CPU filters take away. -/
  filterMask : UInt8 := View.text ||| View.graph ||| View.event
  maxStreams : UInt64 := 127
  deriving DecidableEq, Repr

namespace Settings

def validate (settings : Settings) : Except SettingsFault Unit :=
  if settings.filterMask &&& View.untouched ≠ 0 then .error (.pluginBit settings.filterMask)
  else if settings.maxStreams = 0 || maxSlots < settings.maxStreams.toNat then
    .error (.streamLimit settings.maxStreams)
  else .ok ()

def ofJson? (value : Json) : Option Settings := do
  let fields ← value.fields? ["filter_mask", "max_streams"]
  let preset : Settings := {}
  let filterMask ← Json.optional fields "filter_mask" preset.filterMask Json.uint8?
  let maxStreams ← Json.optional fields "max_streams" preset.maxStreams Json.uint64?
  some { filterMask, maxStreams }

def toJson (settings : Settings) : Json :=
  Json.ofFields
    [("filter_mask", .ofNat settings.filterMask.toNat),
     ("max_streams", .ofNat settings.maxStreams.toNat)]

def save (settings : Settings) : String := settings.toJson.pretty

def load (path : String) (content : FileContent) : Except SettingsFault Settings :=
  match content.text with
  | .error fault => .error (.unreadable path fault)
  | .ok text =>
    match Json.parse? text.toList with
    | none => .error (.malformed path "not well-formed JSON")
    | some value =>
      match ofJson? value with
      | none => .error (.malformed path "not a configuration")
      | some settings => settings.validate.map fun _ => settings

end Settings

end KernelTrace
