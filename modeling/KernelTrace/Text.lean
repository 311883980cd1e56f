import KernelTrace.Text.Unprinted

namespace KernelTrace

namespace Text

def spaces (count : Nat) : String := String.ofList (List.replicate count ' ')

def alignLeft (width : Nat) (text : String) : String := text ++ spaces (width - text.length)

def alignRight (width : Nat) (text : String) : String := spaces (width - text.length) ++ text

def rule (width : Nat) : String := String.ofList (List.replicate width '-')

def hex (n : Nat) : String := String.ofList (Nat.toDigits 16 n)

def hexByte (byte : UInt8) : String :=
  if byte < 16 then "0x0" ++ hex byte.toNat else "0x" ++ hex byte.toNat

def brackets (items : List String) : String := "[" ++ String.intercalate ", " items ++ "]"

def braces (items : List String) : String := "\x7b" ++ String.intercalate ", " items ++ "\x7d"

def fields (name : String) (items : List (String × String)) : String :=
  let members := items.map fun (field, value) => field ++ ": " ++ value
  name ++ " \x7b " ++ String.intercalate ", " members ++ " \x7d"

end Text

namespace Decimal

def ofNat (n : Nat) : List Char := Nat.toDigits 10 n

def ofInt : Int → List Char
  | .ofNat n => ofNat n
  | .negSucc n => '-' :: ofNat (n + 1)

def toNat? (digits : List Char) : Option Nat :=
  if digits.isEmpty || !digits.all Char.isDigit then none
  else some (Nat.ofDigitChars 10 digits 0)

def toInt? : List Char → Option Int
  | '-' :: digits => (toNat? digits).map fun n => -(n : Int)
  | '+' :: digits => (toNat? digits).map Int.ofNat
  | digits => (toNat? digits).map Int.ofNat

end Decimal

namespace Fixed

/-- The quotient rounded to the nearest whole number, a half to the even neighbour. -/
def roundDiv (numerator denominator : Nat) : Nat :=
  let quotient := numerator / denominator
  let twice := 2 * (numerator % denominator)
  if denominator < twice || (twice = denominator && quotient % 2 = 1) then quotient + 1
  else quotient

/-- The magnitude of a finite number, as a whole number and a power of two that divides it. -/
def magnitude (x : Float) : Nat × Nat :=
  let bits := x.toBits.toNat
  let leading := 1 <<< 52
  let fraction := bits % leading
  let exponent := bits / leading % (1 <<< 11)
  let mantissa := if exponent = 0 then fraction else fraction + leading
  let exponent := max exponent 1
  (mantissa <<< (exponent - 1075), 1 <<< (1075 - exponent))

def render (places : Nat) (x : Float) : String :=
  let (numerator, denominator) := magnitude x
  let unit := Nat.pow 10 places
  let scaled := roundDiv (numerator * unit) denominator
  let whole := toString (scaled / unit)
  let rest := toString (scaled % unit)
  let sign := if x.toBits >>> 63 = 1 then "-" else ""
  sign ++ whole ++ "." ++ String.ofList (List.replicate (places - rest.length) '0') ++ rest

end Fixed

namespace Quoted

def escape (c : Char) : String :=
  if c = '"' then "\\\""
  else if c = '\\' then "\\\\"
  else if c = '\n' then "\\n"
  else if c = '\r' then "\\r"
  else if c = '\t' then "\\t"
  else if c.toNat = 0 then "\\0"
  else if Text.isUnprinted c then "\\u\x7b" ++ Text.hex c.toNat ++ "\x7d"
  else String.singleton c

def encode (text : String) : String := "\"" ++ String.join (text.toList.map escape) ++ "\""

end Quoted

end KernelTrace
