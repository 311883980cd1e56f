import KernelTrace.Json.Scalar

namespace KernelTrace

inductive Token
  | openArray
  | closeArray
  | openObject
  | closeObject
  | colon
  | comma
  | null
  | bool (value : Bool)
  | number (word : List Char)
  | text (spelling : Spelling)
  deriving DecidableEq, Repr

def hexDigit? (c : Char) : Option Nat :=
  if '0' ≤ c && c ≤ '9' then some (c.toNat - '0'.toNat)
  else if 'a' ≤ c && c ≤ 'f' then some (c.toNat - 'a'.toNat + 10)
  else if 'A' ≤ c && c ≤ 'F' then some (c.toNat - 'A'.toNat + 10)
  else none

def hexUnit? (a b c d : Char) : Option Nat := do
  some ((← hexDigit? a) * 0x1000 + (← hexDigit? b) * 0x100 + (← hexDigit? c) * 0x10
    + (← hexDigit? d))

def lexString : List Char → Option (Spelling × List Char)
  | [] => none
  | '"' :: rest => some ([], rest)
  | '\\' :: 'u' :: a :: b :: c :: d :: rest =>
    match hexUnit? a b c d, lexString rest with
    | some code, some (spelling, after) => some (.unit code :: spelling, after)
    | _, _ => none
  | '\\' :: letter :: rest =>
    match escapes.lookup letter, lexString rest with
    | some c, some (spelling, after) => some (.escaped c :: spelling, after)
    | _, _ => none
  | c :: rest =>
    match lexString rest with
    | some (spelling, after) =>
      if c.toNat < 32 then none else some (.plain c :: spelling, after)
    | none => none

theorem lexString_shortens {s after : List Char} {spelling : Spelling}
    (read : lexString s = some (spelling, after)) : after.length < s.length := by
  fun_induction lexString s generalizing spelling after with
  | case1 => simp at read
  | case2 rest => simp_all
  | case3 a b c d rest code inner remaining step _ ih
  | case5 letter rest _ inner remaining c step _ ih =>
      simp only [Option.some.injEq, Prod.mk.injEq] at read
      have shorter := ih step
      rw [← read.2]
      simp only [List.length_cons]
      omega
  | case8 c rest _ _ _ inner remaining step _ ih =>
      simp only [Option.some.injEq, Prod.mk.injEq] at read
      have shorter := ih step
      rw [← read.2]
      simp only [List.length_cons]
      omega
  | case4 | case6 | case7 | case9 => simp at read

def isBlank (c : Char) : Bool := c = ' ' || c = '\n' || c = '\t' || c = '\r'

def isWordChar (c : Char) : Bool := c.isAlphanum || c = '+' || c = '-' || c = '.'

def Token.ofMark? (c : Char) : Option Token :=
  if c = '[' then some .openArray
  else if c = ']' then some .closeArray
  else if c = '\x7b' then some .openObject
  else if c = '\x7d' then some .closeObject
  else if c = ':' then some .colon
  else if c = ',' then some .comma
  else none

def Token.ofWord? (word : List Char) : Option Token :=
  if word = ['n', 'u', 'l', 'l'] then some .null
  else if word = ['t', 'r', 'u', 'e'] then some (.bool true)
  else if word = ['f', 'a', 'l', 's', 'e'] then some (.bool false)
  else if JsonNumber.isNumber word then some (.number word)
  else none

def lex : List Char → Option (List Token)
  | [] => some []
  | c :: rest =>
    if isBlank c then lex rest
    else if c = '"' then
      match _read : lexString rest with
      | some (spelling, after) => (lex after).map (.text spelling :: ·)
      | none => none
    else
      match Token.ofMark? c with
      | some token => (lex rest).map (token :: ·)
      | none =>
        match Token.ofWord? (c :: rest.takeWhile isWordChar) with
        | some token => (lex (rest.dropWhile isWordChar)).map (token :: ·)
        | none => none
termination_by s => s.length
decreasing_by
  · simp
  · have shorter := lexString_shortens _read
    simp only [List.length_cons]
    omega
  · simp
  · have shorter := (List.dropWhile_sublist isWordChar (l := rest)).length_le
    simp only [List.length_cons]
    omega

end KernelTrace
