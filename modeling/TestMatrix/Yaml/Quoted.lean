import TestMatrix.Yaml.Folding
namespace TestMatrix.Yaml.Quoted

def hexDigit? (c : Char) : Option Nat :=
  if '0' ≤ c && c ≤ '9' then some (c.toNat - 0x30)
  else if 'a' ≤ c && c ≤ 'f' then some (c.toNat - 0x61 + 10)
  else if 'A' ≤ c && c ≤ 'F' then some (c.toNat - 0x41 + 10)
  else none

def shortEscapes : List (Char × Char) :=
  [('0', '\x00'), ('a', '\x07'), ('b', '\x08'), ('t', '\t'), ('\t', '\t'), ('n', '\n'),
   ('v', '\x0b'), ('f', '\x0c'), ('r', '\r'), ('e', '\x1b'), (' ', ' '), ('"', '"'), ('/', '/'),
   ('\\', '\\'), ('N', '\u0085'), ('_', '\u00a0'), ('L', '\u2028'), ('P', '\u2029')]

def codeLength? : Char → Option Nat
  | 'x' => some 2
  | 'u' => some 4
  | 'U' => some 8
  | _ => none

inductive Mode
  | text
  | escape
  | code (value due : Nat)
deriving DecidableEq, Repr

structure State where
  text : List Char := []
  gap : Gap := {}
  mode : Mode := .text
deriving DecidableEq, Repr

namespace State

def push (s : State) (c : Char) : State := { text := c :: (s.gap.text ++ s.text) }

def close (s : State) : String := String.ofList (s.gap.text ++ s.text).reverse

def escaped (s : State) (c : Char) : Except Fault State :=
  match shortEscapes.lookup c, codeLength? c with
  | some d, _ => .ok (s.push d)
  | none, some due => .ok { s with mode := .code 0 due }
  | none, none => .error .escape

def digit (s : State) (value due : Nat) (c : Char) : Except Fault State :=
  match hexDigit? c with
  | none => .error .escape
  | some d =>
    let value := value * 16 + d
    if 1 < due then .ok { s with mode := .code value (due - 1) }
    else if value.isValidChar then .ok (s.push (Char.ofNat value))
    else .error .escape

/-- A line break, which vanishes after a backslash. -/
def lineBreak (s : State) (b : Char) : Except Fault State :=
  match s.mode with
  | .text => .ok { s with gap := s.gap.lineBreak b }
  | .escape => .ok { text := s.gap.text ++ s.text, gap := { broken := true } }
  | .code .. => .error .escape

end State

def read (double : Bool) (s : State) (m : Mark) : List Char → Except Fault (String × Cursor)
  | [] => .error .unfinished
  | '\r' :: '\n' :: rest => do read double (← s.lineBreak '\n') (m.newLine 2) rest
  | '\'' :: '\'' :: rest =>
    if double then
      match s.mode with
      | .text => read double ((s.push '\'').push '\'') (m.skip 2) rest
      | _ => .error .escape
    else read double (s.push '\'') (m.skip 2) rest
  | c :: rest =>
    match s.mode with
    | .escape =>
      if isBreak c then do read double (← s.lineBreak (breakText c)) (m.newLine 1) rest
      else do read double (← { s with mode := .text }.escaped c) (m.skip 1) rest
    | .code value due => do read double (← s.digit value due c) (m.skip 1) rest
    | .text =>
      if isBreak c then do read double (← s.lineBreak (breakText c)) (m.newLine 1) rest
      else if isBlank c then read double { s with gap := s.gap.blank c } (m.skip 1) rest
      else if m.column = 0 ∧ isDocumentMarker (c :: rest) then .error .documentMarker
      else if c = (if double then '"' else '\'') then .ok (s.close, ⟨m.skip 1, rest⟩)
      else if double ∧ c = '\\' then read double { s with mode := .escape } (m.skip 1) rest
      else read double (s.push c) (m.skip 1) rest

end TestMatrix.Yaml.Quoted
