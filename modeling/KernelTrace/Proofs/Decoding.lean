import KernelTrace.Proofs.Printing

namespace KernelTrace.Json

theorem isWritten_laterItems {items : List Json} (each : ∀ item ∈ items, item.IsWritten) :
    ∀ token ∈ laterItems items, token.IsWritten := by
  induction items with
  | nil => simp [laterItems]
  | cons item items ih =>
      obtain ⟨first, others⟩ := List.forall_mem_cons.mp each
      rw [laterItems, List.cons_append, List.forall_mem_cons, List.forall_mem_append]
      exact ⟨trivial, first, ih others⟩

theorem isWritten_array {items : List Json} (each : ∀ item ∈ items, item.IsWritten) :
    (array items).IsWritten := by
  unfold IsWritten
  cases items with
  | nil => simp [tokens, Token.IsWritten]
  | cons item items =>
      obtain ⟨first, others⟩ := List.forall_mem_cons.mp each
      rw [tokens, List.forall_mem_append, List.cons_append, List.forall_mem_cons,
        List.forall_mem_append, List.forall_mem_singleton]
      exact ⟨⟨trivial, first, isWritten_laterItems others⟩, trivial⟩

theorem isWritten_laterMembers {members : List (Spelling × Json)}
    (each : ∀ member ∈ members, member.1.IsWritten ∧ member.2.IsWritten) :
    ∀ token ∈ laterMembers members, token.IsWritten := by
  induction members with
  | nil => simp [laterMembers]
  | cons member members ih =>
      obtain ⟨⟨named, first⟩, others⟩ := List.forall_mem_cons.mp each
      rw [laterMembers, List.cons_append, List.cons_append, List.cons_append, List.forall_mem_cons,
        List.forall_mem_cons, List.forall_mem_cons, List.forall_mem_append]
      exact ⟨trivial, named, trivial, first, ih others⟩

theorem isWritten_object {members : List (Spelling × Json)}
    (each : ∀ member ∈ members, member.1.IsWritten ∧ member.2.IsWritten) :
    (object members).IsWritten := by
  unfold IsWritten
  cases members with
  | nil => simp [tokens, Token.IsWritten]
  | cons member members =>
      obtain ⟨⟨named, first⟩, others⟩ := List.forall_mem_cons.mp each
      rw [tokens, List.forall_mem_append, List.cons_append, List.cons_append, List.cons_append,
        List.forall_mem_cons, List.forall_mem_cons, List.forall_mem_cons, List.forall_mem_append,
        List.forall_mem_singleton]
      exact ⟨⟨trivial, named, trivial, first, isWritten_laterMembers others⟩, trivial⟩

theorem wordChar_of_digit {c : Char} (digit : c.isDigit) : isWordChar c := by
  simp [isWordChar, Char.isAlphanum, digit]

theorem wordChars_ofInt (n : Int) : ∀ c ∈ Decimal.ofInt n, isWordChar c := by
  cases n with
  | ofNat n => exact fun c member => wordChar_of_digit (Decimal.digits_ofNat member)
  | negSucc n =>
      rw [Decimal.ofInt, List.forall_mem_cons]
      exact ⟨rfl, fun c member => wordChar_of_digit (Decimal.digits_ofNat member)⟩

theorem isWritten_null : null.IsWritten := by
  simp [IsWritten, tokens, Token.IsWritten]

theorem isWritten_ofInt (n : Int) : (ofInt n).IsWritten := by
  intro token member
  rw [ofInt, tokens, List.mem_singleton] at member
  rw [member]
  exact ⟨JsonNumber.isNumber_ofInt n, wordChars_ofInt n⟩

theorem isWritten_ofString (text : String) : (ofString text).IsWritten := by
  intro token member
  rw [ofString, tokens, List.mem_singleton] at member
  rw [member]
  exact Spelling.ofChars_isWritten text.toList

theorem isWritten_ofFields {fields : List (String × Json)}
    (each : ∀ field ∈ fields, field.2.IsWritten) : (ofFields fields).IsWritten := by
  apply isWritten_object
  intro member inside
  obtain ⟨field, present, rfl⟩ := List.mem_map.mp inside
  exact ⟨Spelling.ofChars_isWritten field.1.toList, each field present⟩

/-- The printer can write the value, and this is read from it. -/
structure Spells {α : Type} (read? : Json → Option α) (value : Json) (item : α) : Prop where
  written : value.IsWritten
  read : read? value = some item

theorem int?_ofInt {n low high : Int} (above : low ≤ n) (below : n ≤ high) :
    (ofInt n).int? low high = some n := by
  simp [int?, ofInt, JsonNumber.int?_ofInt, above, below]

theorem spells_int64 (n : Int64) : Spells int64? (ofInt n.toInt) n where
  written := isWritten_ofInt n.toInt
  read := by
    rw [int64?, int?_ofInt n.minValue_le_toInt n.toInt_le, Option.map_some, Int64.ofInt_toInt]

theorem spells_int32 (n : Int32) : Spells int32? (ofInt n.toInt) n where
  written := isWritten_ofInt n.toInt
  read := by
    rw [int32?, int?_ofInt n.minValue_le_toInt n.toInt_le, Option.map_some, Int32.ofInt_toInt]

theorem int?_ofNat {n size : Nat} (small : n < size) :
    (ofNat n).int? 0 (size - 1) = some (n : Int) :=
  int?_ofInt (Int.natCast_nonneg n) (by omega)

theorem spells_uint64 (n : UInt64) : Spells uint64? (ofNat n.toNat) n where
  written := isWritten_ofInt n.toNat
  read := by
    rw [uint64?, int?_ofNat n.toNat_lt, Option.map_some, Int.toNat_natCast, UInt64.ofNat_toNat]

theorem spells_uint32 (n : UInt32) : Spells uint32? (ofNat n.toNat) n where
  written := isWritten_ofInt n.toNat
  read := by
    rw [uint32?, int?_ofNat n.toNat_lt, Option.map_some, Int.toNat_natCast, UInt32.ofNat_toNat]

theorem spells_uint8 (n : UInt8) : Spells uint8? (ofNat n.toNat) n where
  written := isWritten_ofInt n.toNat
  read := by
    rw [uint8?, int?_ofNat n.toNat_lt, Option.map_some, Int.toNat_natCast, UInt8.ofNat_toNat]

theorem spells_text (text : String) : Spells text? (ofString text) text where
  written := isWritten_ofString text
  read := Spelling.text?_ofString text

section

variable {α : Type} {read? : Json → Option α}

theorem spells_none : Spells (nullable? read?) null none where
  written := isWritten_null
  read := rfl

theorem spells_some_text (text : String) :
    Spells (nullable? text?) (ofString text) (some text) where
  written := isWritten_ofString text
  read := congrArg (Option.map some) (Spelling.text?_ofString text)

theorem spells_list {toJson : α → Json} (each : ∀ item, Spells read? (toJson item) item)
    (items : List α) : Spells (list? read?) (.array (items.map toJson)) items where
  written := by
    apply isWritten_array
    intro value member
    obtain ⟨item, _, rfl⟩ := List.mem_map.mp member
    exact (each item).written
  read := by
    rw [list?]
    induction items with
    | nil => rfl
    | cons item items ih =>
        rw [List.map_cons, List.mapM_cons, (each item).read, ih]
        rfl

end

theorem idOfKey?_ofInt (id : Int32) : idOfKey? (.ofChars (Decimal.ofInt id.toInt)) = some id := by
  rw [idOfKey?, Spelling.bare?_ofChars (wordChars_ofInt id.toInt), Option.bind_some]
  exact (spells_int32 id).read

theorem spells_names (names : List (Int32 × String)) : Spells byId? (ofNames names) names where
  written := by
    apply isWritten_object
    intro member inside
    obtain ⟨⟨id, name⟩, _, rfl⟩ := List.mem_map.mp inside
    exact ⟨Spelling.ofChars_isWritten _, isWritten_ofString name⟩
  read := by
    rw [ofNames, byId?]
    induction names with
    | nil => rfl
    | cons pair names ih =>
        rw [List.map_cons, List.mapM_cons, ih]
        simp only [idOfKey?_ofInt, (spells_text pair.2).read]
        rfl

theorem fields?_ofFields {names : List String} {fields : List (String × Json)}
    (named : fields.map (·.1) = names) (distinct : names.Nodup) :
    (ofFields fields).fields? names = some fields := by
  subst named
  have read : (fields.map fun field => (Spelling.ofString field.1, field.2)).mapM
      (fun member => member.1.text?.map fun name => (name, member.2)) = some fields := by
    clear distinct
    induction fields with
    | nil => rfl
    | cons field fields ih =>
        rw [List.map_cons, List.mapM_cons, ih]
        simp only [Spelling.text?_ofString]
        rfl
  have known : fields.filter (fun field => (fields.map (·.1)).contains field.1) = fields := by
    rw [List.filter_eq_self]
    intro field member
    exact List.contains_iff_mem.mpr (List.mem_map_of_mem member)
  have taken : (ofFields fields).fields? (fields.map (·.1)) =
      ((fields.map fun field : String × Json => (Spelling.ofString field.1, field.2)).mapM
        fun member : Spelling × Json =>
          member.1.text?.map fun name => (name, member.2)).bind fun named =>
          let known := named.filter fun field => (fields.map (·.1)).contains field.1
          if (known.map (·.1)).Nodup then some known else none := rfl
  rw [taken, read, Option.bind_some]
  simp only [known, if_pos distinct]

section

variable {α : Type} {read? : Json → Option α} {fields : List (String × Json)} {name : String}
  {value : Json} {item absent : α}

theorem required_eq_some (found : fields.lookup name = some value)
    (spells : Spells read? value item) : required fields name read? = some item := by
  rw [required, found, Option.bind_some, spells.read]

theorem optional_eq_some (found : fields.lookup name = some value)
    (spells : Spells read? value item) : optional fields name absent read? = some item := by
  rw [optional, found]
  exact spells.read

end

end KernelTrace.Json
