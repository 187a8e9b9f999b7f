import TestMatrix.Yaml.Fault
namespace TestMatrix.Yaml

def isAllowed (c : Char) : Bool :=
  let n := c.toNat
  n == 0x9 || n == 0xa || n == 0xd || (0x20 ≤ n && n ≤ 0x7e) || n == 0x85 ||
    (0xa0 ≤ n && n ≤ 0xd7ff) || (0xe000 ≤ n && n ≤ 0xfffd) || 0x10000 ≤ n

def isBlank (c : Char) : Bool := c == ' ' || c == '\t'

def isBreak (c : Char) : Bool :=
  c == '\n' || c == '\r' || c == '\u0085' || c == '\u2028' || c == '\u2029'

/-- A line break as it counts in a value: the two separators stand for themselves. -/
def breakText (c : Char) : Char := if c == '\u2028' || c == '\u2029' then c else '\n'

def byteOrderMark : Char := '\ufeff'

def isWordChar (c : Char) : Bool := c.isAlphanum || c == '_' || c == '-'

def isGap : List Char → Bool
  | [] => true
  | c :: _ => isBlank c || isBreak c

def isLineEnd : List Char → Bool
  | [] => true
  | c :: _ => isBreak c

/-- Three hyphens or three dots on their own, which at the start of a line bound a document. -/
def isDocumentMarker : List Char → Bool
  | '-' :: '-' :: '-' :: rest => isGap rest
  | '.' :: '.' :: '.' :: rest => isGap rest
  | _ => false

structure Mark where
  index : Nat := 0
  line : Nat := 0
  column : Nat := 0
deriving DecidableEq, Repr

namespace Mark

def skip (m : Mark) (n : Nat) : Mark := { m with index := m.index + n, column := m.column + n }

def newLine (m : Mark) (n : Nat) : Mark := ⟨m.index + n, m.line + 1, 0⟩

end Mark

structure Cursor where
  mark : Mark := {}
  rest : List Char
deriving DecidableEq, Repr

namespace Cursor

def skip (c : Cursor) (n : Nat) : Cursor := ⟨c.mark.skip n, c.rest.drop n⟩

def skipWhile (c : Cursor) (p : Char → Bool) : Cursor := c.skip (c.rest.takeWhile p).length

def skipBlanks (c : Cursor) : Cursor := c.skipWhile isBlank

def skipBreak (c : Cursor) : Cursor :=
  match c.rest with
  | '\r' :: '\n' :: rest => ⟨c.mark.newLine 2, rest⟩
  | b :: rest => if isBreak b then ⟨c.mark.newLine 1, rest⟩ else c
  | [] => c

def skipComment (c : Cursor) : Cursor :=
  if c.rest.head? = some '#' then c.skipWhile (!isBreak ·) else c

def endLine (c : Cursor) (fault : Fault) : Except Fault Cursor :=
  let c := c.skipBlanks.skipComment
  if isLineEnd c.rest then .ok c.skipBreak else .error fault

end Cursor

end TestMatrix.Yaml
