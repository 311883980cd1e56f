import KernelTrace.Json.Value

namespace KernelTrace

def Glyph.write : Glyph → List Char
  | plain c => [c]
  | escaped c => ['\\', ((escapes.map Prod.swap).lookup c).getD c]
  | unit code => '\\' :: 'u' :: (List.replicate (4 - (Nat.toDigits 16 code).length) '0'
      ++ Nat.toDigits 16 code)

def Spelling.write (spelling : Spelling) : List Char :=
  '"' :: spelling.flatMap Glyph.write ++ ['"']

namespace Json

def line (depth : Nat) : List Char := '\n' :: List.replicate (2 * depth) ' '

mutual

def write (depth : Nat) : Json → List Char
  | .null => ['n', 'u', 'l', 'l']
  | .bool true => ['t', 'r', 'u', 'e']
  | .bool false => ['f', 'a', 'l', 's', 'e']
  | .number word => word
  | .text spelling => spelling.write
  | .array [] => ['[', ']']
  | .array (item :: items) =>
    '[' :: line (depth + 1) ++ item.write (depth + 1) ++ writeItems (depth + 1) items
      ++ line depth ++ [']']
  | .object [] => ['\x7b', '\x7d']
  | .object ((key, value) :: members) =>
    '\x7b' :: line (depth + 1) ++ key.write ++ [':', ' '] ++ value.write (depth + 1)
      ++ writeMembers (depth + 1) members ++ line depth ++ ['\x7d']

def writeItems (depth : Nat) : List Json → List Char
  | [] => []
  | item :: items => ',' :: line depth ++ item.write depth ++ writeItems depth items

def writeMembers (depth : Nat) : List (Spelling × Json) → List Char
  | [] => []
  | (key, value) :: members =>
    ',' :: line depth ++ key.write ++ [':', ' '] ++ value.write depth
      ++ writeMembers depth members

end

def pretty (value : Json) : String := String.ofList (value.write 0)

end Json

end KernelTrace
