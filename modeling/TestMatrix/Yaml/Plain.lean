import TestMatrix.Yaml.Folding
namespace TestMatrix.Yaml.Plain

structure State where
  text : List Char := []
  gap : Gap := {}
deriving DecidableEq, Repr

def isFlowIndicator (c : Char) : Bool := c == ',' || c == '[' || c == ']' || c == '\x7b' || c == '\x7d'

/-- Whether the value ends before `c :: rest`. In a flow collection a colon must not touch what
follows it. -/
def ends (flow : Bool) (indent : Int) (s : State) (m : Mark) (c : Char) (rest : List Char) :
    Except Fault Bool :=
  if !s.gap.isEmpty && ((!flow && decide ((m.column : Int) < indent)) || c == '#' ||
      (m.column == 0 && isDocumentMarker (c :: rest))) then .ok true
  else if c = ':' then
    if flow && rest.head?.any fun d ↦ isFlowIndicator d || d == '?' then .error .colon
    else .ok (isGap rest)
  else .ok (flow && isFlowIndicator c)

structure Result where
  text : String
  broken : Bool
  cursor : Cursor
deriving DecidableEq, Repr

def State.stop (s : State) (m : Mark) (rest : List Char) : Result :=
  ⟨String.ofList s.text.reverse, s.gap.broken, ⟨m, rest⟩⟩

def read (flow : Bool) (indent : Int) (s : State) (m : Mark) : List Char → Except Fault Result
  | [] => .ok (s.stop m [])
  | '\r' :: '\n' :: rest => read flow indent { s with gap := s.gap.lineBreak '\n' } (m.newLine 2) rest
  | c :: rest =>
    if isBreak c then
      read flow indent { s with gap := s.gap.lineBreak (breakText c) } (m.newLine 1) rest
    else if isBlank c then
      if c = '\t' ∧ s.gap.broken ∧ (m.column : Int) < indent then .error .tabulator
      else read flow indent { s with gap := s.gap.blank c } (m.skip 1) rest
    else do
      if ← ends flow indent s m c rest then return s.stop m (c :: rest)
      read flow indent { text := c :: (s.gap.text ++ s.text) } (m.skip 1) rest

end TestMatrix.Yaml.Plain
