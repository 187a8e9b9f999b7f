import TestMatrix.Json.Text
namespace TestMatrix.Json

inductive Token
  | openObject
  | closeObject
  | openArray
  | closeArray
  | comma
  | colon
  | null
  | true
  | false
  | number
  | string (pieces : List Piece)
deriving DecidableEq, Repr

namespace Token

def isSpace (c : Char) : Bool := c == ' ' || c == '\n' || c == '\t' || c == '\r'

inductive Digits
  | sign
  | zero
  | whole
  | point
  | fraction
  | exponent
  | exponentSign
  | power
deriving DecidableEq, Repr

namespace Digits

def isComplete : Digits → Bool
  | zero | whole | fraction | power => .true
  | _ => .false

def next? (d : Digits) (c : Char) : Option Digits :=
  match d with
  | sign => if c == '0' then some zero else if c.isDigit then some whole else none
  | zero => pointed c
  | whole => if c.isDigit then some whole else pointed c
  | point => if c.isDigit then some fraction else none
  | fraction => if c.isDigit then some fraction else raised c
  | exponent =>
    if c == '+' || c == '-' then some exponentSign else if c.isDigit then some power else none
  | exponentSign => if c.isDigit then some power else none
  | power => if c.isDigit then some power else none
where
  raised (c : Char) : Option Digits := if c == 'e' || c == 'E' then some exponent else none
  pointed (c : Char) : Option Digits := if c == '.' then some point else raised c

end Digits

/-- Where a reader of tokens stands. Pieces are kept last first. -/
inductive Mode
  | between
  | word (token : Token) (due : List Char)
  | number (digits : Digits)
  | string (pieces : List Piece)
  | escape (pieces : List Piece)
  | unit (pieces : List Piece) (value : Nat) (due : Nat)
deriving DecidableEq, Repr

namespace Mode

def begin? (c : Char) : Option (List Token × Mode) :=
  match c with
  | '\x7b' => some ([openObject], between)
  | '\x7d' => some ([closeObject], between)
  | '[' => some ([openArray], between)
  | ']' => some ([closeArray], between)
  | ',' => some ([comma], between)
  | ':' => some ([colon], between)
  | '"' => some ([], string [])
  | 'n' => some ([], word null ['u', 'l', 'l'])
  | 't' => some ([], word Token.true ['r', 'u', 'e'])
  | 'f' => some ([], word Token.false ['a', 'l', 's', 'e'])
  | '-' => some ([], number .sign)
  | '0' => some ([], number .zero)
  | c =>
    if c.isDigit then some ([], number .whole)
    else if isSpace c then some ([], between)
    else none

def step? (mode : Mode) (c : Char) : Option (List Token × Mode) :=
  match mode with
  | between => begin? c
  | word token [d] => if c = d then some ([token], between) else none
  | word token (d :: due) => if c = d then some ([], word token due) else none
  | word _ [] => none
  | number digits =>
    match digits.next? c with
    | some digits => some ([], number digits)
    | none =>
      if digits.isComplete then (begin? c).map fun (out, next) ↦ (Token.number :: out, next)
      else none
  | string pieces =>
    if c = '"' then some ([Token.string pieces.reverse], between)
    else if c = '\\' then some ([], escape pieces)
    else if c.toNat < 0x20 then none
    else some ([], string (.char c :: pieces))
  | escape pieces =>
    if c = 'u' then some ([], unit pieces 0 4)
    else (shortEscapes.lookup c).map fun d ↦ ([], string (.char d :: pieces))
  | unit pieces value due => do
    let digit ← hexDigit? c
    let value := value * 16 + digit
    if due ≤ 1 then return ([], string (Piece.ofUnit value :: pieces))
    else return ([], unit pieces value (due - 1))

def finish? : Mode → Option (List Token)
  | between => some []
  | number digits => if digits.isComplete then some [Token.number] else none
  | _ => none

def run? (mode : Mode) : List Char → Option (List Token)
  | [] => mode.finish?
  | c :: rest => do
    let (out, next) ← mode.step? c
    return out ++ (← next.run? rest)

end Mode

def ofText? (s : List Char) : Option (List Token) := Mode.between.run? s

end Token

end TestMatrix.Json
