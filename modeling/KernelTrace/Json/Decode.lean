import KernelTrace.Json.Value

namespace KernelTrace.Json

def int? (low high : Int) : Json → Option Int
  | .number word =>
    (JsonNumber.int? word).bind fun n => if low ≤ n && n ≤ high then some n else none
  | _ => none

def int64? (value : Json) : Option Int64 :=
  (value.int? Int64.minValue.toInt Int64.maxValue.toInt).map Int64.ofInt

def int32? (value : Json) : Option Int32 :=
  (value.int? Int32.minValue.toInt Int32.maxValue.toInt).map Int32.ofInt

def uint64? (value : Json) : Option UInt64 :=
  (value.int? 0 (UInt64.size - 1)).map fun n => UInt64.ofNat n.toNat

def uint32? (value : Json) : Option UInt32 :=
  (value.int? 0 (UInt32.size - 1)).map fun n => UInt32.ofNat n.toNat

def uint8? (value : Json) : Option UInt8 :=
  (value.int? 0 (UInt8.size - 1)).map fun n => UInt8.ofNat n.toNat

def text? : Json → Option String
  | .text spelling => spelling.text?
  | _ => none

def list? {α : Type} (item? : Json → Option α) : Json → Option (List α)
  | .array items => items.mapM item?
  | _ => none

def nullable? {α : Type} (some? : Json → Option α) : Json → Option (Option α)
  | .null => some none
  | value => (some? value).map some

/-- An id in a key is spelled without escapes, as a number is. -/
def idOfKey? (key : Spelling) : Option Int32 := key.bare?.bind fun word => int32? (.number word)

def byId? : Json → Option (List (Int32 × String))
  | .object members =>
    members.mapM fun (key, value) =>
      (idOfKey? key).bind fun id => value.text?.map fun name => (id, name)
  | _ => none

/-- The fields of a record, given by name in any order or by place. No known field stands twice. -/
def fields? (names : List String) : Json → Option (List (String × Json))
  | .array items => if items.length ≤ names.length then some (names.zip items) else none
  | .object members => do
    let named ← members.mapM fun (key, value) => key.text?.map fun name => (name, value)
    let known := named.filter fun (name, _) => names.contains name
    if (known.map (·.1)).Nodup then some known else none
  | _ => none

def required {α : Type} (fields : List (String × Json)) (name : String)
    (read? : Json → Option α) : Option α :=
  (fields.lookup name).bind read?

def optional {α : Type} (fields : List (String × Json)) (name : String) (absent : α)
    (read? : Json → Option α) : Option α :=
  match fields.lookup name with
  | none => some absent
  | some value => read? value

def ofInt (n : Int) : Json := .number (Decimal.ofInt n)

def ofNat (n : Nat) : Json := .number (Decimal.ofNat n)

def ofString (text : String) : Json := .text (.ofString text)

def ofFields (fields : List (String × Json)) : Json :=
  .object (fields.map fun (name, value) => (.ofString name, value))

def ofNames (names : List (Int32 × String)) : Json :=
  .object (names.map fun (id, name) => (.ofChars (Decimal.ofInt id.toInt), ofString name))

end KernelTrace.Json
