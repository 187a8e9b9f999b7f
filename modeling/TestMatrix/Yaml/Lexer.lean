import TestMatrix.Yaml.Block
import TestMatrix.Yaml.Markup
import TestMatrix.Yaml.Plain
namespace TestMatrix.Yaml

/-- A value that becomes a key if a colon follows it on its line. `number` counts the tokens before
it; a required key is one that stands at the indentation of its block. -/
structure Candidate where
  number : Nat
  mark : Mark
  required : Bool
deriving DecidableEq, Repr

namespace Candidate

def longest : Nat := 1024

def isStale (k : Candidate) (m : Mark) : Bool :=
  decide (k.mark.line < m.line) || decide (k.mark.index + longest < m.index)

end Candidate

structure Lexer where
  cursor : Cursor
  tokens : Array Token := #[]
  /-- The column of the innermost block, and those of the blocks around it. -/
  indent : Int := -1
  indents : List Int := []
  /-- The candidate of the innermost collection, and those around it, one for each open bracket. -/
  candidate : Option Candidate := none
  outer : List (Option Candidate) := []
  keyAllowed : Bool := true
deriving Repr

namespace Lexer

def inFlow (s : Lexer) : Bool := !s.outer.isEmpty

def column (s : Lexer) : Nat := s.cursor.mark.column

def emit (s : Lexer) (t : Token) : Lexer := { s with tokens := s.tokens.push t }

/-- Skips blanks, comments and line breaks. A tabulator is no blank where a key may stand, and a
line break in a block makes room for a key. -/
def skipGap (flow allowed comment : Bool) (m : Mark) : List Char → Bool × Cursor
  | [] => (allowed, ⟨m, []⟩)
  | '\r' :: '\n' :: rest => skipGap flow (allowed || !flow) false (m.newLine 2) rest
  | c :: rest =>
    if isBreak c then skipGap flow (allowed || !flow) false (m.newLine 1) rest
    else if comment then skipGap flow allowed true (m.skip 1) rest
    else if c = ' ' ∨ (c = '\t' ∧ (flow ∨ allowed = false)) ∨
        (c = byteOrderMark ∧ m.column = 0) then
      skipGap flow allowed false (m.skip 1) rest
    else if c = '#' then skipGap flow allowed true (m.skip 1) rest
    else (allowed, ⟨m, c :: rest⟩)

def toToken (s : Lexer) : Lexer :=
  let (keyAllowed, cursor) := skipGap s.inFlow s.keyAllowed false s.cursor.mark s.cursor.rest
  { s with keyAllowed, cursor }

def refresh (m : Mark) : Option Candidate → Except Fault (Option Candidate)
  | some k => if k.isStale m then (if k.required then .error .unfinishedKey else .ok none)
    else .ok (some k)
  | none => .ok none

def dropStale (s : Lexer) : Except Fault Lexer := do
  let m := s.cursor.mark
  return { s with candidate := ← refresh m s.candidate, outer := ← s.outer.mapM (refresh m) }

def unroll (s : Lexer) (column : Int) : Lexer :=
  if s.inFlow then s
  else
    let closed := (s.indent :: s.indents).takeWhile (column < ·)
    match (s.indent :: s.indents).drop closed.length with
    | indent :: indents =>
      { s with
        indent, indents
        tokens := s.tokens ++ (List.replicate closed.length Token.blockEnd).toArray }
    | [] => s

/-- Begins a block at `column` if it stands further right than the one around it. Its first token
goes before the token of that number. -/
def roll (s : Lexer) (column number : Nat) (t : Token) : Lexer :=
  if !s.inFlow && decide (s.indent < (column : Int)) then
    { s with
      indent := column
      indents := s.indent :: s.indents
      tokens := s.tokens.insertIdxIfInBounds number t }
  else s

def dropCandidate (s : Lexer) : Except Fault Lexer :=
  match s.candidate with
  | some k => if k.required then .error .unfinishedKey else .ok { s with candidate := none }
  | none => .ok s

def saveCandidate (s : Lexer) : Except Fault Lexer :=
  if s.keyAllowed then do
    let required := !s.inFlow && s.indent == (s.column : Int)
    let s ← s.dropCandidate
    return { s with candidate := some ⟨s.tokens.size, s.cursor.mark, required⟩ }
  else .ok s

def endBlocks (s : Lexer) : Except Fault Lexer := do
  return { ← (s.unroll (-1)).dropCandidate with keyAllowed := false }

def directive (s : Lexer) : Except Fault Lexer := do
  let s ← s.endBlocks
  let (t, cursor) ← Markup.directive s.cursor
  return { s with cursor }.emit t

def documentMarker (s : Lexer) (t : Token) : Except Fault Lexer := do
  let s ← s.endBlocks
  return { s with cursor := s.cursor.skip 3 }.emit t

def indicator (s : Lexer) (t : Token) : Lexer := { s with cursor := s.cursor.skip 1 }.emit t

def openFlow (s : Lexer) (t : Token) : Except Fault Lexer := do
  let s ← s.saveCandidate
  return { s with candidate := none, outer := s.candidate :: s.outer, keyAllowed := true }.indicator t

def closeFlow (s : Lexer) (t : Token) : Except Fault Lexer := do
  let s ← s.dropCandidate
  let s :=
    match s.outer with
    | candidate :: outer => { s with candidate, outer }
    | [] => s
  return { s with keyAllowed := false }.indicator t

def comma (s : Lexer) : Except Fault Lexer := do
  return { ← s.dropCandidate with keyAllowed := true }.indicator .comma

def beginBlock (s : Lexer) (c : Char) (t : Token) : Except Fault Lexer :=
  if s.inFlow then .ok s
  else if s.keyAllowed then .ok (s.roll s.column s.tokens.size t)
  else .error (.misplaced c)

def entry (s : Lexer) : Except Fault Lexer := do
  let s ← s.beginBlock '-' .sequenceStart
  return { ← s.dropCandidate with keyAllowed := true }.indicator .entry

def key (s : Lexer) : Except Fault Lexer := do
  let s ← s.beginBlock '?' .mappingStart
  return { ← s.dropCandidate with keyAllowed := !s.inFlow }.indicator .key

def value (s : Lexer) : Except Fault Lexer :=
  match s.candidate with
  | some k =>
    let s := { s with tokens := s.tokens.insertIdxIfInBounds k.number .key }
    let s := s.roll k.mark.column k.number .mappingStart
    .ok ({ s with candidate := none, keyAllowed := false }.indicator .value)
  | none => do
    let s ← s.beginBlock ':' .mappingStart
    return { s with keyAllowed := !s.inFlow }.indicator .value

def content (s : Lexer) (read : Cursor → Except Fault (Token × Cursor)) : Except Fault Lexer := do
  let s ← s.saveCandidate
  let (t, cursor) ← read s.cursor
  return { s with cursor, keyAllowed := false }.emit t

def name (token : String → Token) (c : Cursor) : Except Fault (Token × Cursor) := do
  let (word, c) ← Markup.name c
  return (token word, c)

def quoted (double : Bool) (c : Cursor) : Except Fault (Token × Cursor) := do
  let c := c.skip 1
  let (text, c) ← Quoted.read double {} c.mark c.rest
  return (.scalar (if double then .double else .single) text, c)

def block (s : Lexer) (folded : Bool) : Except Fault Lexer := do
  let s ← s.dropCandidate
  let (text, cursor) ← Block.read folded s.indent (s.cursor.skip 1)
  return { s with cursor, keyAllowed := true }.emit
    (.scalar (if folded then .folded else .literal) text)

def plain (s : Lexer) : Except Fault Lexer := do
  let s ← s.saveCandidate
  let r ← Plain.read s.inFlow (s.indent + 1) {} s.cursor.mark s.cursor.rest
  return { s with cursor := r.cursor, keyAllowed := r.broken }.emit (.scalar .plain r.text)

def isIndicator (c : Char) : Bool :=
  ['-', '?', ':', ',', '[', ']', '\x7b', '\x7d', '#', '&', '*', '!', '|', '>', '\'', '"', '%', '@',
    '\x60'].contains c

def beginsPlain (flow : Bool) (c : Char) (rest : List Char) : Bool :=
  !(isBlank c || isBreak c || isIndicator c) ||
    (c == '-' && !rest.head?.any isBlank) ||
    (!flow && (c == '?' || c == ':') && !isGap rest)

def token (s : Lexer) (c : Char) (rest : List Char) : Except Fault Lexer :=
  if s.column = 0 ∧ c = '%' then s.directive
  else if s.column = 0 ∧ isDocumentMarker (c :: rest) then
    s.documentMarker (if c = '-' then .documentStart else .documentEnd)
  else if c = '[' then s.openFlow .openSequence
  else if c = '\x7b' then s.openFlow .openMapping
  else if c = ']' then s.closeFlow .closeSequence
  else if c = '\x7d' then s.closeFlow .closeMapping
  else if c = ',' then s.comma
  else if c = '-' ∧ isGap rest then s.entry
  else if c = '?' ∧ (s.inFlow ∨ isGap rest) then s.key
  else if c = ':' ∧ (s.inFlow ∨ isGap rest) then s.value
  else if c = '*' then s.content (name .reference)
  else if c = '&' then s.content (name .anchor)
  else if c = '!' then s.content (Markup.tag s.inFlow)
  else if c = '|' ∧ !s.inFlow then s.block false
  else if c = '>' ∧ !s.inFlow then s.block true
  else if c = '\'' then s.content (quoted false)
  else if c = '"' then s.content (quoted true)
  else if beginsPlain s.inFlow c rest then s.plain
  else .error (.strange c)

/-- Reads every token. Each one takes at least a character, so `fuel` exceeds their number. -/
def run (fuel : Nat) (s : Lexer) : Except Fault (List Token) := do
  match fuel with
  | 0 => throw .unfinished
  | fuel + 1 =>
    let s ← s.toToken.dropStale
    let s := s.unroll s.column
    match s.cursor.rest with
    | [] =>
      let s ← s.endBlocks
      return s.tokens.toList
    | c :: rest => (← s.token c rest).run fuel

end Lexer

def Token.ofText (text : List Char) : Except Fault (List Token) :=
  match text.find? (!isAllowed ·) with
  | some c => .error (.unprintable c)
  | none => Lexer.run (text.length + 1) { cursor := { rest := text } }

end TestMatrix.Yaml
