import TestMatrix.Json.Token
namespace TestMatrix.Json

/-- A value as far as reading a record needs it: the digits of a number are left out. -/
inductive Value
  | null
  | true
  | false
  | number
  | string (pieces : List Piece)
  | array (items : List Value)
  | object (members : List (List Piece × Value))
deriving Repr

namespace Value

inductive Frame
  | array (items : List Value)
  | object (members : List (List Piece × Value)) (key : List Piece)
deriving Repr

inductive Due
  | value
  | firstItem
  | firstKey
  | key (members : List (List Piece × Value))
  | colon (members : List (List Piece × Value)) (key : List Piece)
  | next (value : Value)
deriving Repr

structure State where
  due : Due
  frames : List Frame
deriving Repr

def scalar? : Token → Option Value
  | .null => some null
  | .true => some .true
  | .false => some .false
  | .number => some number
  | .string pieces => some (string pieces)
  | _ => none

def State.enter? (frames : List Frame) : Token → Option State
  | .openArray => some ⟨.firstItem, frames⟩
  | .openObject => some ⟨.firstKey, frames⟩
  | token => (scalar? token).map fun v ↦ ⟨.next v, frames⟩

def State.readKey? (frames : List Frame) (members : List (List Piece × Value)) :
    Token → Option State
  | .string key => some ⟨.colon members key, frames⟩
  | _ => none

def State.follow? (v : Value) : List Frame → Token → Option State
  | .array items :: frames, .comma => some ⟨.value, .array (v :: items) :: frames⟩
  | .array items :: frames, .closeArray => some ⟨.next (array (v :: items).reverse), frames⟩
  | .object members key :: frames, .comma => some ⟨.key ((key, v) :: members), frames⟩
  | .object members key :: frames, .closeObject =>
    some ⟨.next (object ((key, v) :: members).reverse), frames⟩
  | _, _ => none

def State.step? (s : State) (token : Token) : Option State :=
  match s.due, token with
  | .firstItem, .closeArray => some ⟨.next (array []), s.frames⟩
  | .firstItem, token => enter? (.array [] :: s.frames) token
  | .firstKey, .closeObject => some ⟨.next (object []), s.frames⟩
  | .firstKey, token => readKey? s.frames [] token
  | .key members, token => readKey? s.frames members token
  | .colon members key, .colon => some ⟨.value, .object members key :: s.frames⟩
  | .colon _ _, _ => none
  | .value, token => enter? s.frames token
  | .next v, token => follow? v s.frames token

def State.finish? : State → Option Value
  | ⟨.next v, []⟩ => some v
  | _ => none

def ofTokens? (tokens : List Token) : Option Value := do
  let s ← tokens.foldlM State.step? ⟨.value, []⟩
  s.finish?

def ofText? (s : String) : Option Value := do ofTokens? (← Token.ofText? s.toList)

end Value

end TestMatrix.Json
