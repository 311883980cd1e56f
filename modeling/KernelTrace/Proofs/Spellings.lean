import KernelTrace.Json.Decode
import KernelTrace.Json.Printer
import Mathlib.Data.List.TakeWhile
import Mathlib.Data.Nat.Digits.Defs

namespace KernelTrace

theorem hexDigit?_digitChar {digit : Nat} (small : digit < 16) :
    hexDigit? digit.digitChar = some digit := by
  revert digit
  decide

theorem toDigits_sixteen {n : Nat} (large : 16 ≤ n) :
    Nat.toDigits 16 n = Nat.toDigits 16 (n / 16) ++ [(n % 16).digitChar] :=
  Nat.toDigits_of_base_le (by decide) large

theorem pad_toDigits {code : Nat} (small : code < 0x10000) :
    List.replicate (4 - (Nat.toDigits 16 code).length) '0' ++ Nat.toDigits 16 code =
      [(code / 0x1000).digitChar, (code / 0x100 % 16).digitChar, (code / 0x10 % 16).digitChar,
        (code % 16).digitChar] := by
  have zero : '0' = Nat.digitChar 0 := rfl
  rw [zero]
  by_cases one : code < 16
  · rw [Nat.toDigits_of_lt_base one, show code / 0x1000 = 0 by omega,
      show code / 0x100 % 16 = 0 by omega, show code / 0x10 % 16 = 0 by omega,
      show code % 16 = code by omega]
    rfl
  rw [toDigits_sixteen (by omega)]
  by_cases two : code / 16 < 16
  · rw [Nat.toDigits_of_lt_base two, show code / 0x1000 = 0 by omega,
      show code / 0x100 % 16 = 0 by omega, show code / 0x10 % 16 = code / 16 by omega]
    rfl
  rw [toDigits_sixteen (by omega)]
  by_cases three : code / 16 / 16 < 16
  · rw [Nat.toDigits_of_lt_base three, show code / 0x1000 = 0 by omega,
      show code / 0x100 % 16 = code / 16 / 16 by omega]
    rfl
  rw [toDigits_sixteen (by omega), Nat.toDigits_of_lt_base (by omega),
    show code / 0x1000 = code / 16 / 16 / 16 by omega,
    show code / 0x100 % 16 = code / 16 / 16 % 16 by omega]
  rfl

theorem hexUnit?_digits {code : Nat} (small : code < 0x10000) :
    hexUnit? (code / 0x1000).digitChar (code / 0x100 % 16).digitChar
      (code / 0x10 % 16).digitChar (code % 16).digitChar = some code := by
  rw [hexUnit?, hexDigit?_digitChar (by omega), hexDigit?_digitChar (by omega),
    hexDigit?_digitChar (by omega), hexDigit?_digitChar (by omega)]
  simp only [Option.bind_eq_bind, Option.bind_some, Option.some.injEq]
  omega

namespace Glyph

def IsWritten : Glyph → Prop
  | plain c => c ≠ '"' ∧ c ≠ '\\' ∧ 32 ≤ c.toNat
  | escaped c => c ∈ escapes.map (·.2)
  | unit code => code < 0x10000

def letter (c : Char) : Char := ((escapes.map Prod.swap).lookup c).getD c

theorem letter_reads : ∀ c ∈ escapes.map (·.2),
    letter c ≠ 'u' ∧ escapes.lookup (letter c) = some c := by
  simp [escapes, letter, List.lookup_cons]

end Glyph

theorem lexString_write {glyph : Glyph} (written : glyph.IsWritten) {rest after : List Char}
    {spelling : Spelling} (read : lexString rest = some (spelling, after)) :
    lexString (glyph.write ++ rest) = some (glyph :: spelling, after) := by
  cases glyph with
  | plain c =>
      obtain ⟨notQuote, notBackslash, notControl⟩ := written
      have high : ¬ c.toNat < 32 := Nat.not_lt.mpr notControl
      rw [Glyph.write, List.singleton_append, lexString]
      · simp only [read, if_neg high]
      · exact notQuote
      · exact fun _ _ _ _ _ same => (notBackslash same).elim
      · exact fun _ _ same => (notBackslash same).elim
  | escaped c =>
      obtain ⟨notUnit, found⟩ := Glyph.letter_reads c written
      change lexString ('\\' :: Glyph.letter c :: rest) = _
      rw [lexString]
      · simp only [found, read]
      · intro _ _ _ _ _ same
        exact (notUnit same).elim
  | unit code =>
      rw [Glyph.write, pad_toDigits written]
      simp only [List.cons_append, List.nil_append, lexString, hexUnit?_digits written, read]

namespace Spelling

def IsWritten (spelling : Spelling) : Prop := ∀ glyph ∈ spelling, glyph.IsWritten

theorem lexString_flatMap {spelling : Spelling} (written : spelling.IsWritten)
    (rest : List Char) :
    lexString (spelling.flatMap Glyph.write ++ '"' :: rest) = some (spelling, rest) := by
  induction spelling with
  | nil => rfl
  | cons glyph spelling ih =>
      obtain ⟨first, others⟩ := List.forall_mem_cons.mp written
      rw [List.flatMap_cons, List.append_assoc]
      exact lexString_write first (ih others)

theorem ofChar_isWritten (c : Char) : (ofChar c).IsWritten := by
  unfold ofChar
  split
  · rename_i lettered
    obtain ⟨_, lettered⟩ := Bool.and_eq_true_iff.mp lettered
    obtain ⟨pair, member, same⟩ := List.any_eq_true.mp lettered
    exact List.mem_map.mpr ⟨pair, member, of_decide_eq_true same⟩
  · rename_i unlettered
    split
    · rename_i control
      change c.toNat < 0x10000
      omega
    · rename_i notControl
      refine ⟨?_, ?_, Nat.not_lt.mp notControl⟩
      · rintro rfl
        exact unlettered (by decide)
      · rintro rfl
        exact unlettered (by decide)

theorem ofChars_isWritten (chars : List Char) : (ofChars chars).IsWritten := by
  intro glyph member
  obtain ⟨c, _, rfl⟩ := List.mem_map.mp member
  exact ofChar_isWritten c

theorem chars?_unit {code : Nat} (low : code < 0xD800) (rest : Spelling) :
    chars? (.unit code :: rest) = (chars? rest).map (Char.ofNat code :: ·) := by
  have notHigh : isHighSurrogate code = false := by simp [isHighSurrogate]; omega
  have notLow : isLowSurrogate code = false := by simp [isLowSurrogate]; omega
  cases rest with
  | nil => simp [chars?, notHigh, notLow]
  | cons glyph rest => cases glyph <;> simp [chars?, notHigh, notLow]

theorem chars?_ofChar (c : Char) (rest : Spelling) :
    chars? (ofChar c :: rest) = (chars? rest).map (c :: ·) := by
  unfold ofChar
  split
  · rfl
  · split
    · rename_i control
      rw [chars?_unit (by omega), Char.ofNat_toNat]
    · rfl

theorem chars?_ofChars (chars : List Char) : chars? (ofChars chars) = some chars := by
  induction chars with
  | nil => rfl
  | cons c chars ih =>
      change chars? (ofChar c :: ofChars chars) = _
      rw [chars?_ofChar, ih]
      rfl

theorem text?_ofString (text : String) : text? (ofString text) = some text := by
  rw [text?, ofString, chars?_ofChars, Option.map_some, String.ofList_toList]

theorem ofChar_of_wordChar {c : Char} (word : isWordChar c) : ofChar c = .plain c := by
  have letters : ∀ pair ∈ escapes, pair.2 ≠ '/' → isWordChar pair.2 = false := by decide
  have controls : ∀ code < 32, isWordChar (Char.ofNat code) = false := by decide
  unfold ofChar
  split
  · rename_i lettered
    obtain ⟨notSlash, lettered⟩ := Bool.and_eq_true_iff.mp lettered
    obtain ⟨pair, member, same⟩ := List.any_eq_true.mp lettered
    obtain rfl : pair.2 = c := of_decide_eq_true same
    rw [letters pair member (of_decide_eq_true notSlash)] at word
    cases word
  · split
    · rename_i control
      have absent := controls c.toNat control
      rw [Char.ofNat_toNat, word] at absent
      cases absent
    · rfl

theorem bare?_ofChars {word : List Char} (wordly : ∀ c ∈ word, isWordChar c) :
    bare? (ofChars word) = some word := by
  induction word with
  | nil => rfl
  | cons c word ih =>
      obtain ⟨first, others⟩ := List.forall_mem_cons.mp wordly
      change bare? (ofChar c :: ofChars word) = _
      have rest := ih others
      unfold bare? at rest ⊢
      rw [ofChar_of_wordChar first, List.mapM_cons, rest]
      rfl

end Spelling

namespace Decimal

theorem digits_ofNat {n : Nat} {c : Char} (member : c ∈ ofNat n) : c.isDigit :=
  Nat.isDigit_of_mem_toDigits (by decide) (by decide) member

theorem ofNat_leads {n : Nat} (positive : 0 < n) :
    ∃ c digits, ofNat n = c :: digits ∧ c ≠ '0' := by
  induction n using Nat.strongRecOn with
  | _ n ih =>
      by_cases small : n < 10
      · have leads : ∀ digit < 10, 0 < digit → Nat.digitChar digit ≠ '0' := by decide
        exact ⟨n.digitChar, [], Nat.toDigits_of_lt_base small, leads n small positive⟩
      · obtain ⟨c, digits, same, leads⟩ := ih (n / 10) (by omega) (by omega)
        refine ⟨c, digits ++ [(n % 10).digitChar], ?_, leads⟩
        unfold ofNat at same ⊢
        rw [Nat.toDigits_of_base_le (by decide) (by omega), same]
        rfl

theorem exists_ofNat (n : Nat) : ∃ c digits, ofNat n = c :: digits ∧ c.isDigit := by
  cases same : ofNat n with
  | nil => exact (Nat.toDigits_ne_nil same).elim
  | cons c digits => exact ⟨c, digits, rfl, digits_ofNat (same ▸ List.mem_cons_self)⟩

theorem toNat?_ofNat (n : Nat) : toNat? (ofNat n) = some n := by
  have digits : (ofNat n).all Char.isDigit = true :=
    List.all_eq_true.mpr fun _ member => digits_ofNat member
  obtain ⟨c, rest, same, _⟩ := exists_ofNat n
  have nonempty : (ofNat n).isEmpty = false := by rw [same]; rfl
  simp only [toNat?, nonempty, digits, Bool.not_true, Bool.or_false, Bool.false_eq_true, if_false]
  rw [ofNat, Nat.ofDigitChars_ten_toDigits]

theorem toInt?_ofInt (n : Int) : toInt? (ofInt n) = some n := by
  cases n with
  | ofNat n =>
      obtain ⟨c, digits, same, isDigit⟩ := exists_ofNat n
      have read := toNat?_ofNat n
      rw [same] at read
      rw [ofInt, same, toInt?, read]
      · rfl
      · rintro _ ⟨⟩
        cases isDigit
      · rintro _ ⟨⟩
        cases isDigit
  | negSucc n =>
      rw [ofInt, toInt?, toNat?_ofNat]
      rfl

end Decimal

namespace JsonNumber

theorem isWhole_ofNat (n : Nat) : isWhole (Decimal.ofNat n) := by
  rcases Nat.eq_zero_or_pos n with rfl | positive
  · rfl
  · obtain ⟨c, digits, same, leads⟩ := Decimal.ofNat_leads positive
    rw [same, isWhole]
    · rintro ⟨⟩
    · rintro _ ⟨⟩
      exact leads rfl

theorem isUnsigned_ofNat (n : Nat) : isUnsigned (Decimal.ofNat n) := by
  have digits : ∀ c ∈ Decimal.ofNat n, c.isDigit := fun _ => Decimal.digits_ofNat
  rw [isUnsigned, List.takeWhile_eq_self_iff.mpr digits, List.dropWhile_eq_nil_iff.mpr digits,
    isWhole_ofNat]
  rfl

theorem isNumber_ofInt (n : Int) : isNumber (Decimal.ofInt n) := by
  cases n with
  | ofNat n =>
      obtain ⟨c, digits, same, isDigit⟩ := Decimal.exists_ofNat n
      have unsigned := isUnsigned_ofNat n
      rw [same] at unsigned
      rw [Decimal.ofInt, same, isNumber, unsigned]
      rintro _ ⟨⟩
      cases isDigit
  | negSucc n => exact isUnsigned_ofNat (n + 1)

theorem int?_ofInt (n : Int) : int? (Decimal.ofInt n) = some n := by
  have signed : Decimal.ofInt n ≠ ['-', '0'] := by
    cases n with
    | ofNat n =>
        obtain ⟨c, digits, same, isDigit⟩ := Decimal.exists_ofNat n
        rw [Decimal.ofInt, same]
        rintro ⟨⟩
        cases isDigit
    | negSucc n =>
        obtain ⟨c, digits, same, leads⟩ := Decimal.ofNat_leads (Nat.succ_pos n)
        rw [Decimal.ofInt, same]
        rintro ⟨⟩
        exact leads rfl
  rw [int?, isNumber_ofInt, Decimal.toInt?_ofInt]
  simp [signed]

end JsonNumber

end KernelTrace
