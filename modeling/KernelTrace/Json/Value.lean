import KernelTrace.Json.Token

/-! JSON values, read from tokens with a stack of the containers still open. -/

namespace KernelTrace

/-- Members stay in the order in which they are written, and a key may stand more than once. -/
inductive Json
  | null
  | bool (value : Bool)
  | number (word : List Char)
  | text (spelling : Spelling)
  | array (items : List Json)
  | object (members : List (Spelling × Json))
  deriving Inhabited

namespace Json

inductive Frame
  | array (items : List Json)
  | object (members : List (Spelling × Json)) (key : Spelling)

inductive Stage
  | value
  | firstItem
  | afterItem (items : List Json)
  | firstKey
  | key (members : List (Spelling × Json))
  | colon (members : List (Spelling × Json)) (key : Spelling)
  | afterMember (members : List (Spelling × Json))
  | done (value : Json)

structure ReadState where
  stage : Stage
  stack : List Frame

def deliver (value : Json) : List Frame → ReadState
  | [] => ⟨.done value, []⟩
  | .array items :: stack => ⟨.afterItem (value :: items), stack⟩
  | .object members key :: stack => ⟨.afterMember ((key, value) :: members), stack⟩

def beginValue (stack : List Frame) : Token → Option ReadState
  | .null => some (deliver .null stack)
  | .bool value => some (deliver (.bool value) stack)
  | .number word => some (deliver (.number word) stack)
  | .text spelling => some (deliver (.text spelling) stack)
  | .openArray => some ⟨.firstItem, stack⟩
  | .openObject => some ⟨.firstKey, stack⟩
  | _ => none

def step : ReadState → Token → Option ReadState
  | ⟨.value, stack⟩, token => beginValue stack token
  | ⟨.firstItem, stack⟩, .closeArray => some (deliver (.array []) stack)
  | ⟨.firstItem, stack⟩, token => beginValue (.array [] :: stack) token
  | ⟨.afterItem items, stack⟩, .comma => some ⟨.value, .array items :: stack⟩
  | ⟨.afterItem items, stack⟩, .closeArray => some (deliver (.array items.reverse) stack)
  | ⟨.firstKey, stack⟩, .closeObject => some (deliver (.object []) stack)
  | ⟨.firstKey, stack⟩, .text key => some ⟨.colon [] key, stack⟩
  | ⟨.key members, stack⟩, .text key => some ⟨.colon members key, stack⟩
  | ⟨.colon members key, stack⟩, .colon => some ⟨.value, .object members key :: stack⟩
  | ⟨.afterMember members, stack⟩, .comma => some ⟨.key members, stack⟩
  | ⟨.afterMember members, stack⟩, .closeObject =>
    some (deliver (.object members.reverse) stack)
  | _, _ => none

def read : ReadState → List Token → Option ReadState
  | state, [] => some state
  | state, token :: tokens => (step state token).bind fun next => read next tokens

def ofTokens? (tokens : List Token) : Option Json :=
  match read ⟨.value, []⟩ tokens with
  | some ⟨.done value, _⟩ => some value
  | _ => none

def parse? (s : List Char) : Option Json := (lex s).bind ofTokens?

end Json

end KernelTrace
