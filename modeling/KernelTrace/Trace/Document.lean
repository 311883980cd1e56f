import KernelTrace.Entry
import KernelTrace.Fault
import KernelTrace.Ids
import KernelTrace.Json.Decode
import KernelTrace.Json.Printer

/-! Trace documents: all records of a trace in one list, with names for its events and tasks, and the
JSON text of a file that holds one. -/

namespace KernelTrace

structure DocumentRecord where
  ts : Int64
  cpu : UInt32
  pid : Int32
  eventId : Int32
  missed : UInt64 := 0
  data : List UInt8 := []
  info : Option String := none
  deriving DecidableEq, Repr

structure Document where
  cpuCount : UInt64
  events : NameTable := ∅
  tasks : NameTable := ∅
  records : List DocumentRecord
  deriving DecidableEq

/-- The offset of a record is its place in the document. -/
def DocumentRecord.at (record : DocumentRecord) (index : Nat) : Record where
  ts := record.ts
  cpu := record.cpu
  pid := record.pid
  eventId := record.eventId
  offset := UInt64.ofNat index
  missed := record.missed
  data := record.data

def Document.rawRecords (document : Document) : List Record :=
  document.records.mapIdx fun index record => record.at index

namespace DocumentRecord

def fieldNames : List String := ["ts", "cpu", "pid", "event_id", "missed_events", "data", "info"]

def ofJson? (value : Json) : Option DocumentRecord := do
  let fields ← value.fields? fieldNames
  let ts ← Json.required fields "ts" Json.int64?
  let cpu ← Json.required fields "cpu" Json.uint32?
  let pid ← Json.required fields "pid" Json.int32?
  let eventId ← Json.required fields "event_id" Json.int32?
  let missed ← Json.optional fields "missed_events" 0 Json.uint64?
  let data ← Json.optional fields "data" [] (Json.list? Json.uint8?)
  let info ← Json.optional fields "info" none (Json.nullable? Json.text?)
  some { ts, cpu, pid, eventId, missed, data, info }

def toJson (record : DocumentRecord) : Json :=
  Json.ofFields
    [("ts", .ofInt record.ts.toInt), ("cpu", .ofNat record.cpu.toNat),
     ("pid", .ofInt record.pid.toInt), ("event_id", .ofInt record.eventId.toInt),
     ("missed_events", .ofNat record.missed.toNat),
     ("data", .array (record.data.map fun byte => .ofNat byte.toNat)),
     ("info", match record.info with
       | none => .null
       | some info => .ofString info)]

end DocumentRecord

namespace Document

def fieldNames : List String := ["n_cpus", "events", "tasks", "records"]

def names? (value : Json) : Option NameTable := value.byId?.map NameTable.ofList

def ofJson? (value : Json) : Option Document := do
  let fields ← value.fields? fieldNames
  let cpuCount ← Json.required fields "n_cpus" Json.uint64?
  let events ← Json.optional fields "events" ∅ names?
  let tasks ← Json.optional fields "tasks" ∅ names?
  let records ← Json.required fields "records" (Json.list? DocumentRecord.ofJson?)
  some { cpuCount, events, tasks, records }

def toJson (document : Document) : Json :=
  Json.ofFields
    [("n_cpus", .ofNat document.cpuCount.toNat), ("events", .ofNames document.events.names),
     ("tasks", .ofNames document.tasks.names),
     ("records", .array (document.records.map DocumentRecord.toJson))]

def save (document : Document) : String := document.toJson.pretty

def ofText (text : String) : Except SourceFault Document :=
  match Json.parse? text.toList with
  | none => .error (.malformed "not well-formed JSON")
  | some value =>
    match ofJson? value with
    | none => .error (.malformed "not a trace")
    | some document => .ok document

end Document

abbrev FileContent := Except FileFault ByteArray

def FileContent.text (content : FileContent) : Except FileFault String :=
  match content with
  | .error fault => .error fault
  | .ok bytes =>
    match String.fromUTF8? bytes with
    | none => .error .notUtf8
    | some text => .ok text

def Document.load (content : FileContent) : Except SourceFault Document :=
  match content.text with
  | .error fault => .error (.unreadable fault)
  | .ok text => ofText text

end KernelTrace
