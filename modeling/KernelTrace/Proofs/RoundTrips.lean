import KernelTrace.Proofs.Decoding
import KernelTrace.Settings

namespace KernelTrace

open Json (Spells)

theorem placeByKey_last {α : Type} {key : α → Int32} {item : α} {items : List α}
    (above : ∀ other ∈ items, key other < key item) : placeByKey key item items = items ++ [item] := by
  induction items with
  | nil => rfl
  | cons head tail ih =>
      obtain ⟨first, others⟩ := List.forall_mem_cons.mp above
      rw [placeByKey, if_neg (Int32.not_lt.mpr (Int32.le_of_lt first)),
        if_neg (Int32.ne_of_lt first).symm, ih others]
      rfl

namespace NameTable

theorem names_foldl_insert (table : NameTable) (names : List (Int32 × String))
    (ascending : (table.names ++ names).Pairwise fun a b => a.1 < b.1) :
    (names.foldl (fun table (id, name) => table.insert id name) table).names =
      table.names ++ names := by
  induction names generalizing table with
  | nil => rw [List.foldl_nil, List.append_nil]
  | cons pair names ih =>
      have above : ∀ other ∈ table.names, other.1 < pair.1 :=
        fun other member => (List.pairwise_append.mp ascending).2.2 other member pair
          List.mem_cons_self
      have placed : (table.insert pair.1 pair.2).names = table.names ++ [pair] :=
        placeByKey_last above
      rw [List.foldl_cons, ih, placed, List.append_assoc]
      · rfl
      · rw [placed, List.append_assoc]
        exact ascending

theorem ofList_names (table : NameTable) : ofList table.names = table := by
  have same : (ofList table.names).names = table.names :=
    names_foldl_insert ∅ table.names table.ascending
  cases made : ofList table.names with
  | mk names ascending =>
      rw [made] at same
      cases same
      rfl

end NameTable

theorem spells_info (info : Option String) :
    Spells (Json.nullable? Json.text?)
      (match info with
        | none => .null
        | some info => .ofString info) info := by
  cases info with
  | none => exact Json.spells_none
  | some info => exact Json.spells_some_text info

theorem DocumentRecord.spells (record : DocumentRecord) :
    Spells DocumentRecord.ofJson? record.toJson record where
  written := by
    apply Json.isWritten_ofFields
    rw [List.forall_mem_cons, List.forall_mem_cons, List.forall_mem_cons, List.forall_mem_cons,
      List.forall_mem_cons, List.forall_mem_cons, List.forall_mem_singleton]
    exact ⟨(Json.spells_int64 record.ts).written, (Json.spells_uint32 record.cpu).written,
      (Json.spells_int32 record.pid).written, (Json.spells_int32 record.eventId).written,
      (Json.spells_uint64 record.missed).written,
      (Json.spells_list Json.spells_uint8 record.data).written, (spells_info record.info).written⟩
  read := by
    have fields : record.toJson.fields? fieldNames = some _ :=
      Json.fields?_ofFields rfl (by decide)
    rw [ofJson?, fields]
    simp only [Option.bind_eq_bind, Option.bind_some]
    rw [Json.required_eq_some rfl (Json.spells_int64 record.ts), Option.bind_some,
      Json.required_eq_some rfl (Json.spells_uint32 record.cpu), Option.bind_some,
      Json.required_eq_some rfl (Json.spells_int32 record.pid), Option.bind_some,
      Json.required_eq_some rfl (Json.spells_int32 record.eventId), Option.bind_some,
      Json.optional_eq_some rfl (Json.spells_uint64 record.missed), Option.bind_some,
      Json.optional_eq_some rfl (Json.spells_list Json.spells_uint8 record.data), Option.bind_some,
      Json.optional_eq_some rfl (spells_info record.info), Option.bind_some]

theorem Document.spells_table (table : NameTable) : Spells names? (.ofNames table.names) table where
  written := (Json.spells_names table.names).written
  read := by
    rw [names?, (Json.spells_names table.names).read, Option.map_some, NameTable.ofList_names]

theorem Document.spells (document : Document) :
    Spells Document.ofJson? document.toJson document where
  written := by
    apply Json.isWritten_ofFields
    rw [List.forall_mem_cons, List.forall_mem_cons, List.forall_mem_cons, List.forall_mem_singleton]
    exact ⟨(Json.spells_uint64 document.cpuCount).written, (spells_table document.events).written,
      (spells_table document.tasks).written,
      (Json.spells_list DocumentRecord.spells document.records).written⟩
  read := by
    have fields : document.toJson.fields? fieldNames = some _ :=
      Json.fields?_ofFields rfl (by decide)
    rw [ofJson?, fields]
    simp only [Option.bind_eq_bind, Option.bind_some]
    rw [Json.required_eq_some rfl (Json.spells_uint64 document.cpuCount), Option.bind_some,
      Json.optional_eq_some rfl (spells_table document.events), Option.bind_some,
      Json.optional_eq_some rfl (spells_table document.tasks), Option.bind_some,
      Json.required_eq_some rfl (Json.spells_list DocumentRecord.spells document.records),
      Option.bind_some]

theorem Settings.spells (settings : Settings) :
    Spells Settings.ofJson? settings.toJson settings where
  written := by
    apply Json.isWritten_ofFields
    rw [List.forall_mem_cons, List.forall_mem_singleton]
    exact ⟨(Json.spells_uint8 settings.filterMask).written,
      (Json.spells_uint64 settings.maxStreams).written⟩
  read := by
    have fields : settings.toJson.fields? ["filter_mask", "max_streams"] = some _ :=
      Json.fields?_ofFields rfl (by decide)
    rw [ofJson?, fields]
    simp only [Option.bind_eq_bind, Option.bind_some]
    rw [Json.optional_eq_some rfl (Json.spells_uint8 settings.filterMask), Option.bind_some,
      Json.optional_eq_some rfl (Json.spells_uint64 settings.maxStreams), Option.bind_some]

theorem FileContent.text_toUTF8 (text : String) :
    FileContent.text (.ok text.toUTF8) = .ok text := by
  have valid : text.toUTF8.IsValidUTF8 := text.isValidUTF8
  have decoded : String.fromUTF8? text.toUTF8 = some text := by
    rw [String.fromUTF8?, dif_pos valid]
    rfl
  simp only [FileContent.text, decoded]

theorem Document.load_toUTF8 (text : String) :
    Document.load (.ok text.toUTF8) = Document.ofText text := by
  rw [Document.load, FileContent.text_toUTF8]

theorem Json.parse?_pretty {value : Json} (written : value.IsWritten) :
    parse? value.pretty.toList = some value := by
  rw [pretty, String.toList_ofList, parse?_write written]

theorem Document.load_save (document : Document) :
    Document.load (.ok document.save.toUTF8) = .ok document := by
  have parsed := Json.parse?_pretty document.spells.written
  simp only [load_toUTF8, ofText, save, parsed, document.spells.read]

theorem Settings.load_save (settings : Settings) (path : String) :
    Settings.load path (.ok settings.save.toUTF8) = settings.validate.map fun _ => settings := by
  have parsed := Json.parse?_pretty settings.spells.written
  simp only [load, FileContent.text_toUTF8, save, parsed, settings.spells.read]

/-- A file that holds what was saved loads as what it was saved from: every trace document as
itself, and settings as themselves where they are valid. Settings that are not are refused for the
same reason as before they were saved. -/
theorem saved_files_load :
    (∀ document : Document, Document.load (.ok document.save.toUTF8) = .ok document) ∧
      ∀ (settings : Settings) (path : String),
        Settings.load path (.ok settings.save.toUTF8) =
          settings.validate.map fun _ => settings :=
  ⟨Document.load_save, Settings.load_save⟩

end KernelTrace
