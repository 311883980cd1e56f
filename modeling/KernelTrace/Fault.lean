import KernelTrace.Entry

/-! What can go wrong, by cause, and the text that reports it. Memory is taken to suffice for what is
loaded, so nothing fails for want of it; only an array that could not even be laid out panics. -/

namespace KernelTrace

inductive FileFault
  | notFound
  | isDirectory
  | notUtf8
  | device (report : String)
  deriving DecidableEq, Repr

inductive Damage
  | strayRecord (index cpu cpuCount : Nat)
  /-- A panic struck while the stream was being loaded. -/
  | poisoned (stream : Handle)
  | other (report : String)
  deriving DecidableEq, Repr

inductive SourceFault
  | unreadable (cause : FileFault)
  | malformed (report : String)
  | cpuOutOfRange (cpu cpuCount : Nat)
  | noRecordAt (offset : UInt64)
  | corrupt (damage : Damage)
  deriving DecidableEq, Repr

inductive SettingsFault
  | unreadable (path : String) (cause : FileFault)
  | malformed (path report : String)
  | pluginBit (mask : UInt8)
  | streamLimit (limit : UInt64)
  deriving DecidableEq, Repr

inductive Fault
  | notOpen (stream : Handle)
  | full (limit : Nat)
  | openFailed (path : String) (cause : SourceFault)
  | source (cause : SourceFault)
  | contentFiltered (stream : Handle)
  | notRegistered
  | stale (expected actual : Nat)
  | settings (cause : SettingsFault)
  deriving DecidableEq, Repr

/-- A plugin or a content filter gave up, or an array could not be laid out. -/
structure Panic where
  payload : String
  deriving DecidableEq, Repr

/-- Opening a source gives it or the fault in it, unless it panics. -/
abbrev Opening (α : Type) := Except Panic (Except SourceFault α)

inductive Failure
  | fault (cause : Fault)
  | panic (cause : Panic)
  deriving DecidableEq, Repr

def FileFault.message : FileFault → String
  | notFound => "No such file or directory (os error 2)"
  | isDirectory => "Is a directory (os error 21)"
  | notUtf8 => "stream did not contain valid UTF-8"
  | device report => report

def Damage.message : Damage → String
  | strayRecord index cpu cpuCount =>
    "record " ++ toString index ++ " on CPU " ++ toString cpu ++ ", but the trace has "
      ++ toString cpuCount ++ " CPUs"
  | poisoned stream => "source lock of " ++ stream.label ++ " poisoned"
  | other report => report

def SourceFault.message : SourceFault → String
  | unreadable cause => "I/O error: " ++ cause.message
  | malformed report => "Malformed trace document: " ++ report
  | cpuOutOfRange cpu cpuCount =>
    "CPU " ++ toString cpu ++ " out of range (source has " ++ toString cpuCount ++ " CPUs)"
  | noRecordAt offset => "No record at offset " ++ toString offset
  | corrupt damage => "Corrupt trace source: " ++ damage.message

/-- The highest number of streams that handles can tell apart. -/
def maxSlots : Nat := 65536

def SettingsFault.message : SettingsFault → String
  | unreadable path cause => path ++ ": " ++ cause.message
  | malformed path report => path ++ ": " ++ report
  | pluginBit mask =>
    "filter_mask " ++ Text.hexByte mask ++ " includes the plugin bit 0x80"
  | streamLimit limit =>
    "max_streams must be in 1..=" ++ toString maxSlots ++ ", got " ++ toString limit

def Fault.message : Fault → String
  | notOpen stream => "Invalid stream handle " ++ stream.details
  | full limit => "Cannot open more than " ++ toString limit ++ " streams"
  | openFailed path cause => "Failed to open trace " ++ path ++ ": " ++ cause.message
  | source cause => "Trace source error: " ++ cause.message
  | contentFiltered stream =>
    "Content filter is active on " ++ stream.label
      ++ "; reload the stream instead of recomputing visibility"
  | notRegistered => "No such collection"
  | stale expected actual =>
    "Collection indexes " ++ toString expected ++ " entries but was queried with "
      ++ toString actual
  | settings cause => "Invalid configuration: " ++ cause.message

end KernelTrace
