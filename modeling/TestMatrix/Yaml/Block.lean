import TestMatrix.Yaml.Folding
namespace TestMatrix.Yaml.Block

inductive Chomping
  | strip
  | clip
  | keep
deriving DecidableEq, Repr

structure Header where
  chomping : Chomping
  increment : Nat
deriving DecidableEq, Repr

def takeChomping (c : Cursor) : Option Chomping × Cursor :=
  match c.rest with
  | '+' :: _ => (some .keep, c.skip 1)
  | '-' :: _ => (some .strip, c.skip 1)
  | _ => (none, c)

def takeIncrement (c : Cursor) : Option Nat × Cursor :=
  match c.rest with
  | d :: _ => if d.isDigit then (some (d.toNat - 0x30), c.skip 1) else (none, c)
  | [] => (none, c)

def header (c : Cursor) : Except Fault (Header × Cursor) := do
  let (before, c) := takeChomping c
  let (increment, c) := takeIncrement c
  let (chomping, c) := if before.isNone then takeChomping c else (before, c)
  if increment = some 0 then throw .blockHeader
  return (⟨chomping.getD .clip, increment.getD 0⟩, ← c.endLine .blockHeader)

/-- A block value read so far, texts last character first. -/
structure State where
  text : List Char := []
  /-- The column of the lines; zero until the first line shows it. -/
  indent : Nat := 0
  /-- The furthest column of the blank lines so far. -/
  furthest : Nat := 0
  firstBreak : List Char := []
  moreBreaks : List Char := []
  leading : Bool := false
  inLine : Bool := false
deriving DecidableEq, Repr

namespace State

def settle (s : State) (parent : Int) (column : Nat) : State :=
  if s.indent = 0 then { s with indent := max (max s.furthest column) (max (parent + 1).toNat 1) }
  else s

def joint (s : State) (folded blank : Bool) : List Char :=
  if folded && s.firstBreak = ['\n'] && !s.leading && !blank then
    s.moreBreaks ++ (if s.moreBreaks = [] then [' '] else [])
  else s.moreBreaks ++ s.firstBreak

def beginLine (s : State) (folded : Bool) (c : Char) : State :=
  { s with
    text := c :: (s.joint folded (isBlank c) ++ s.text)
    firstBreak := []
    moreBreaks := []
    leading := isBlank c
    inLine := true }

def lineBreak (s : State) (b : Char) (column : Nat) : State :=
  if s.inLine then { s with firstBreak := [b], inLine := false }
  else { s with moreBreaks := b :: s.moreBreaks, furthest := max s.furthest column }

def indents (s : State) (column : Nat) : Bool := s.indent == 0 || decide (column < s.indent)

def close (s : State) (chomping : Chomping) : String :=
  let text :=
    match chomping with
    | .strip => s.text
    | .clip => s.firstBreak ++ s.text
    | .keep => s.moreBreaks ++ s.firstBreak ++ s.text
  String.ofList text.reverse

end State

def lines (folded : Bool) (parent : Int) (s : State) (m : Mark) :
    List Char → Except Fault (State × Cursor)
  | [] => .ok (s, ⟨m, []⟩)
  | '\r' :: '\n' :: rest => lines folded parent (s.lineBreak '\n' m.column) (m.newLine 2) rest
  | c :: rest =>
    if isBreak c then lines folded parent (s.lineBreak (breakText c) m.column) (m.newLine 1) rest
    else if s.inLine then lines folded parent { s with text := c :: s.text } (m.skip 1) rest
    else if s.indents m.column && c == ' ' then lines folded parent s (m.skip 1) rest
    else if s.indents m.column && c == '\t' then .error .tabulator
    else
      let s := s.settle parent m.column
      if m.column = s.indent then lines folded parent (s.beginLine folded c) (m.skip 1) rest
      else .ok (s, ⟨m, c :: rest⟩)

def read (folded : Bool) (parent : Int) (c : Cursor) : Except Fault (String × Cursor) := do
  let (h, c) ← header c
  let indent := if h.increment = 0 then 0 else (max parent 0).toNat + h.increment
  let (s, c) ← lines folded parent { indent } c.mark c.rest
  return (s.close h.chomping, c)

end TestMatrix.Yaml.Block
