import KernelTrace.Text

namespace KernelTrace

namespace JsonNumber

def isExponent : List Char → Bool
  | [] => true
  | mark :: rest =>
    let digits := match rest with
      | '+' :: digits => digits
      | '-' :: digits => digits
      | digits => digits
    (mark = 'e' || mark = 'E') && !digits.isEmpty && digits.all Char.isDigit

def isFraction : List Char → Bool
  | '.' :: rest =>
    !(rest.takeWhile Char.isDigit).isEmpty && isExponent (rest.dropWhile Char.isDigit)
  | rest => isExponent rest

def isWhole : List Char → Bool
  | [] => false
  | '0' :: rest => rest.isEmpty
  | _ => true

def isUnsigned (word : List Char) : Bool :=
  isWhole (word.takeWhile Char.isDigit) && isFraction (word.dropWhile Char.isDigit)

def isNumber : List Char → Bool
  | '-' :: word => isUnsigned word
  | word => isUnsigned word

/-- The value of a number without fraction and exponent. A zero with a sign has none. -/
def int? (word : List Char) : Option Int :=
  if word = ['-', '0'] || !isNumber word then none else Decimal.toInt? word

end JsonNumber

/-- A character of a string: itself, after a backslash, or a 16-bit unit in hexadecimal. -/
inductive Glyph
  | plain (c : Char)
  | escaped (c : Char)
  | unit (code : Nat)
  deriving DecidableEq, Repr

abbrev Spelling := List Glyph

def escapes : List (Char × Char) :=
  [('"', '"'), ('\\', '\\'), ('/', '/'), ('b', '\x08'), ('f', '\x0c'), ('n', '\n'), ('r', '\r'),
   ('t', '\t')]

def isHighSurrogate (code : Nat) : Bool := 0xD800 ≤ code && code < 0xDC00

def isLowSurrogate (code : Nat) : Bool := 0xDC00 ≤ code && code < 0xE000

def pairChar (high low : Nat) : Char :=
  Char.ofNat (0x10000 + (high - 0xD800) * 0x400 + (low - 0xDC00))

namespace Spelling

/-- A surrogate that is not half of a pair spells nothing. -/
def chars? : Spelling → Option (List Char)
  | [] => some []
  | .plain c :: rest => (chars? rest).map (c :: ·)
  | .escaped c :: rest => (chars? rest).map (c :: ·)
  | .unit high :: .unit low :: rest =>
    if isHighSurrogate high then
      if isLowSurrogate low then (chars? rest).map (pairChar high low :: ·) else none
    else if isLowSurrogate high then none
    else (chars? (.unit low :: rest)).map (Char.ofNat high :: ·)
  | .unit code :: rest =>
    if isHighSurrogate code || isLowSurrogate code then none
    else (chars? rest).map (Char.ofNat code :: ·)

def text? (spelling : Spelling) : Option String := spelling.chars?.map String.ofList

def bare? (spelling : Spelling) : Option (List Char) :=
  spelling.mapM fun
    | .plain c => some c
    | _ => none

/-- Escapes quotes, backslashes and control characters, and those by letter where one is set. -/
def ofChar (c : Char) : Glyph :=
  if c ≠ '/' && escapes.any (·.2 = c) then .escaped c
  else if c.toNat < 32 then .unit c.toNat
  else .plain c

def ofChars (chars : List Char) : Spelling := chars.map ofChar

def ofString (text : String) : Spelling := ofChars text.toList

end Spelling

end KernelTrace
