import KernelTrace.Proofs.Spellings

namespace KernelTrace

def Token.IsWritten : Token → Prop
  | .number word => JsonNumber.isNumber word ∧ ∀ c ∈ word, isWordChar c
  | .text spelling => spelling.IsWritten
  | _ => True

def Ends (rest : List Char) : Prop := ∀ c ∈ rest.head?, isWordChar c = false

section

variable {c : Char} {word rest : List Char} {token : Token}

theorem ends_nil : Ends [] := fun _ member => nomatch member

theorem ends_cons (apart : isWordChar c = false) : Ends (c :: rest) := by
  rintro _ ⟨⟩
  exact apart

theorem lex_blank (blank : isBlank c) : lex (c :: rest) = lex rest := by
  rw [lex, if_pos blank]

theorem lex_mark (mark : Token.ofMark? c = some token) (dark : isBlank c = false)
    (notQuote : c ≠ '"') : lex (c :: rest) = (lex rest).map (token :: ·) := by
  rw [lex, dark, if_neg Bool.false_ne_true, if_neg notQuote, mark]

theorem lex_text {spelling : Spelling} (written : spelling.IsWritten) :
    lex (spelling.write ++ rest) = (lex rest).map (.text spelling :: ·) := by
  have read := Spelling.lexString_flatMap written rest
  have same : spelling.write ++ rest = '"' :: (spelling.flatMap Glyph.write ++ '"' :: rest) := by
    simp [Spelling.write]
  rw [same, lex, if_neg (by decide), if_pos rfl]
  split
  · rename_i found
    rw [read] at found
    cases found
    rfl
  · rename_i none
    rw [read] at none
    cases none

theorem takeWhile_word (all : ∀ c ∈ word, isWordChar c) (ends : Ends rest) :
    (word ++ rest).takeWhile isWordChar = word ∧ (word ++ rest).dropWhile isWordChar = rest := by
  rw [List.takeWhile_append_of_pos all, List.dropWhile_append_of_pos all]
  cases rest with
  | nil => simp
  | cons c rest => simp [ends c rfl]

theorem ne_of_wordChar {d : Char} (inside : isWordChar c) (outside : isWordChar d = false) :
    c ≠ d := by
  rintro rfl
  rw [inside] at outside
  cases outside

theorem isBlank_of_wordChar (inside : isWordChar c) : isBlank c = false := by
  rw [isBlank, decide_eq_false (ne_of_wordChar inside (by decide)),
    decide_eq_false (ne_of_wordChar inside (by decide)),
    decide_eq_false (ne_of_wordChar inside (by decide)),
    decide_eq_false (ne_of_wordChar inside (by decide))]
  rfl

theorem ofMark?_of_wordChar (inside : isWordChar c) : Token.ofMark? c = none := by
  rw [Token.ofMark?, if_neg (ne_of_wordChar inside (by decide)),
    if_neg (ne_of_wordChar inside (by decide)), if_neg (ne_of_wordChar inside (by decide)),
    if_neg (ne_of_wordChar inside (by decide)), if_neg (ne_of_wordChar inside (by decide)),
    if_neg (ne_of_wordChar inside (by decide))]

theorem lex_word (read : Token.ofWord? word = some token) (all : ∀ c ∈ word, isWordChar c)
    (ends : Ends rest) : lex (word ++ rest) = (lex rest).map (token :: ·) := by
  cases word with
  | nil => cases read
  | cons c word =>
      obtain ⟨first, others⟩ := List.forall_mem_cons.mp all
      obtain ⟨taken, left⟩ := takeWhile_word others ends
      rw [List.cons_append, lex, isBlank_of_wordChar first, if_neg Bool.false_ne_true,
        if_neg (ne_of_wordChar first (by decide)), ofMark?_of_wordChar first, taken, left, read]

theorem ofWord?_number (number : JsonNumber.isNumber word) :
    Token.ofWord? word = some (.number word) := by
  have differ : ∀ other, JsonNumber.isNumber other = false → word ≠ other := by
    rintro _ absent rfl
    rw [number] at absent
    cases absent
  rw [Token.ofWord?, if_neg (differ _ (by decide)), if_neg (differ _ (by decide)),
    if_neg (differ _ (by decide)), if_pos number]

end

namespace Json

mutual

def tokens : Json → List Token
  | .null => [.null]
  | .bool value => [.bool value]
  | .number word => [.number word]
  | .text spelling => [.text spelling]
  | .array [] => [.openArray, .closeArray]
  | .array (item :: items) => .openArray :: item.tokens ++ laterItems items ++ [.closeArray]
  | .object [] => [.openObject, .closeObject]
  | .object ((key, value) :: members) =>
    .openObject :: .text key :: .colon :: value.tokens ++ laterMembers members ++ [.closeObject]

def laterItems : List Json → List Token
  | [] => []
  | item :: items => .comma :: item.tokens ++ laterItems items

def laterMembers : List (Spelling × Json) → List Token
  | [] => []
  | (key, value) :: members =>
    .comma :: .text key :: .colon :: value.tokens ++ laterMembers members

end

def IsWritten (value : Json) : Prop := ∀ token ∈ value.tokens, token.IsWritten

section

variable {rest : List Char} {depth : Nat}

theorem lex_line : lex (line depth ++ rest) = lex rest := by
  have blanks : ∀ count, lex (List.replicate count ' ' ++ rest) = lex rest := by
    intro count
    induction count with
    | zero => rfl
    | succ count ih => rw [List.replicate_succ, List.cons_append, lex_blank (by decide), ih]
  rw [line, List.cons_append, lex_blank (by decide), blanks]

theorem ends_line : Ends (line depth ++ rest) := ends_cons (by decide)

theorem ends_writeItems {items : List Json} (ends : Ends rest) :
    Ends (writeItems depth items ++ rest) := by
  cases items with
  | nil => exact ends
  | cons => exact ends_cons (by decide)

theorem ends_writeMembers {members : List (Spelling × Json)} (ends : Ends rest) :
    Ends (writeMembers depth members ++ rest) := by
  cases members with
  | nil => exact ends
  | cons => exact ends_cons (by decide)

end

mutual

theorem lex_write (value : Json) (depth : Nat) (written : ∀ token ∈ value.tokens, token.IsWritten)
    {rest : List Char} (ends : Ends rest) :
    lex (value.write depth ++ rest) = (lex rest).map (value.tokens ++ ·) := by
  match value with
  | .null =>
      rw [write, tokens]
      exact lex_word rfl (List.all_eq_true.mp rfl) ends
  | .bool true =>
      rw [write, tokens]
      exact lex_word rfl (List.all_eq_true.mp rfl) ends
  | .bool false =>
      rw [write, tokens]
      exact lex_word rfl (List.all_eq_true.mp rfl) ends
  | .number word =>
      obtain ⟨number, all⟩ := written (.number word) (by simp [tokens])
      rw [write, tokens]
      exact lex_word (ofWord?_number number) all ends
  | .text spelling =>
      rw [write, tokens]
      exact lex_text (written (.text spelling) (by simp [tokens]))
  | .array [] =>
      rw [write, tokens, List.cons_append, lex_mark rfl rfl (by decide), List.cons_append,
        lex_mark rfl rfl (by decide), Option.map_map]
      rfl
  | .array (item :: items) =>
      have first : ∀ token ∈ item.tokens, token.IsWritten :=
        fun token member => written token (by simp [tokens, member])
      have later : ∀ token ∈ laterItems items, token.IsWritten :=
        fun token member => written token (by simp [tokens, member])
      simp only [write, tokens, List.cons_append, List.append_assoc, List.nil_append]
      rw [lex_mark rfl rfl (by decide), lex_line,
        lex_write item (depth + 1) first (ends_writeItems ends_line),
        lex_writeItems items (depth + 1) later ends_line, lex_line,
        lex_mark rfl rfl (by decide)]
      simp only [Option.map_map]
      rfl
  | .object [] =>
      rw [write, tokens, List.cons_append, lex_mark rfl rfl (by decide), List.cons_append,
        lex_mark rfl rfl (by decide), Option.map_map]
      rfl
  | .object ((key, value) :: members) =>
      have named : key.IsWritten := written (.text key) (by simp [tokens])
      have first : ∀ token ∈ value.tokens, token.IsWritten :=
        fun token member => written token (by simp [tokens, member])
      have later : ∀ token ∈ laterMembers members, token.IsWritten :=
        fun token member => written token (by simp [tokens, member])
      simp only [write, tokens, List.cons_append, List.append_assoc, List.nil_append]
      rw [lex_mark rfl rfl (by decide), lex_line, lex_text named, lex_mark rfl rfl (by decide),
        lex_blank rfl,
        lex_write value (depth + 1) first (ends_writeMembers ends_line),
        lex_writeMembers members (depth + 1) later ends_line, lex_line,
        lex_mark rfl rfl (by decide)]
      simp only [Option.map_map]
      rfl

theorem lex_writeItems (items : List Json) (depth : Nat)
    (written : ∀ token ∈ laterItems items, token.IsWritten)
    {rest : List Char} (ends : Ends rest) :
    lex (writeItems depth items ++ rest) = (lex rest).map (laterItems items ++ ·) := by
  match items with
  | [] =>
      rw [writeItems, laterItems]
      exact Option.map_id'.symm
  | item :: items =>
      have first : ∀ token ∈ item.tokens, token.IsWritten :=
        fun token member => written token (by simp [laterItems, member])
      have later : ∀ token ∈ laterItems items, token.IsWritten :=
        fun token member => written token (by simp [laterItems, member])
      simp only [writeItems, laterItems, List.cons_append, List.append_assoc]
      rw [lex_mark rfl rfl (by decide), lex_line, lex_write item depth first (ends_writeItems ends),
        lex_writeItems items depth later ends]
      simp only [Option.map_map]
      rfl

theorem lex_writeMembers (members : List (Spelling × Json)) (depth : Nat)
    (written : ∀ token ∈ laterMembers members, token.IsWritten)
    {rest : List Char} (ends : Ends rest) :
    lex (writeMembers depth members ++ rest) = (lex rest).map (laterMembers members ++ ·) := by
  match members with
  | [] =>
      rw [writeMembers, laterMembers]
      exact Option.map_id'.symm
  | (key, value) :: members =>
      have named : key.IsWritten := written (.text key) (by simp [laterMembers])
      have first : ∀ token ∈ value.tokens, token.IsWritten :=
        fun token member => written token (by simp [laterMembers, member])
      have later : ∀ token ∈ laterMembers members, token.IsWritten :=
        fun token member => written token (by simp [laterMembers, member])
      simp only [writeMembers, laterMembers, List.cons_append, List.append_assoc, List.nil_append]
      rw [lex_mark rfl rfl (by decide), lex_line, lex_text named, lex_mark rfl rfl (by decide),
        lex_blank rfl, lex_write value depth first (ends_writeMembers ends),
        lex_writeMembers members depth later ends]
      simp only [Option.map_map]
      rfl

end

theorem read_firstItem (value : Json) (stack : List Frame) (rest : List Token) :
    read ⟨.firstItem, stack⟩ (value.tokens ++ rest) =
      read ⟨.value, .array [] :: stack⟩ (value.tokens ++ rest) := by
  match value with
  | .null | .bool _ | .number _ | .text _ => rfl
  | .array [] | .array (_ :: _) | .object [] | .object (_ :: _) => rfl

mutual

theorem read_tokens (value : Json) (stack : List Frame) (rest : List Token) :
    read ⟨.value, stack⟩ (value.tokens ++ rest) = read (deliver value stack) rest := by
  match value with
  | .null | .bool _ | .number _ | .text _ => rfl
  | .array [] | .object [] => rfl
  | .array (item :: items) =>
      simp only [tokens, List.cons_append, List.append_assoc, List.nil_append]
      change read ⟨.firstItem, stack⟩ (item.tokens ++ _) = _
      rw [read_firstItem, read_tokens item]
      change read ⟨.afterItem [item], stack⟩ _ = _
      rw [read_laterItems items]
      change read (deliver (.array (items.reverse ++ [item]).reverse) stack) rest = _
      rw [List.reverse_append, List.reverse_reverse]
      rfl
  | .object ((key, value) :: members) =>
      simp only [tokens, List.cons_append, List.append_assoc, List.nil_append]
      change read ⟨.value, .object [] key :: stack⟩ (value.tokens ++ _) = _
      rw [read_tokens value]
      change read ⟨.afterMember [(key, value)], stack⟩ _ = _
      rw [read_laterMembers members]
      change read (deliver (.object (members.reverse ++ [(key, value)]).reverse) stack) rest = _
      rw [List.reverse_append, List.reverse_reverse]
      rfl

theorem read_laterItems (items done : List Json) (stack : List Frame) (rest : List Token) :
    read ⟨.afterItem done, stack⟩ (laterItems items ++ rest) =
      read ⟨.afterItem (items.reverse ++ done), stack⟩ rest := by
  match items with
  | [] => rfl
  | item :: items =>
      simp only [laterItems, List.cons_append, List.append_assoc]
      change read ⟨.value, .array done :: stack⟩ (item.tokens ++ _) = _
      rw [read_tokens item]
      change read ⟨.afterItem (item :: done), stack⟩ _ = _
      rw [read_laterItems items, List.reverse_cons, List.append_assoc]
      rfl

theorem read_laterMembers (members done : List (Spelling × Json)) (stack : List Frame)
    (rest : List Token) :
    read ⟨.afterMember done, stack⟩ (laterMembers members ++ rest) =
      read ⟨.afterMember (members.reverse ++ done), stack⟩ rest := by
  match members with
  | [] => rfl
  | (key, value) :: members =>
      simp only [laterMembers, List.cons_append, List.append_assoc]
      change read ⟨.value, .object done key :: stack⟩ (value.tokens ++ _) = _
      rw [read_tokens value]
      change read ⟨.afterMember ((key, value) :: done), stack⟩ _ = _
      rw [read_laterMembers members, List.reverse_cons, List.append_assoc]
      rfl

end

theorem parse?_write {value : Json} (written : value.IsWritten) :
    parse? (value.write 0) = some value := by
  have lexed := lex_write value 0 written ends_nil
  have parsed := read_tokens value [] []
  rw [List.append_nil] at lexed parsed
  rw [parse?, lexed, lex]
  simp only [Option.map_some, List.append_nil, Option.bind_some, ofTokens?, parsed, deliver, read]

end Json

end KernelTrace
