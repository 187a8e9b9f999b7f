import TestMatrix.Arguments.Help
import TestMatrix.Invocation
namespace TestMatrix.Arguments

open Text

inductive Stop
  | fault (f : Fault)
  | display (d : Display)
deriving DecidableEq, Repr

/-- A parameter whose value is still to come, or has come and is not read yet. A value is read when
the next parameter comes, so a fault in between hides what is wrong with it. -/
structure Pending where
  parameter : Parameter
  value : Option Bytes
deriving DecidableEq, Repr

structure Parsing where
  choices : List Choice := []
  pending : Option Pending := none
  closed : Bool := false
deriving DecidableEq, Repr

namespace Parsing

def add (s : Parsing) (p : Parameter) (c : Except Fault Choice) : Except Stop Parsing :=
  if p ≠ .verbose ∧ s.choices.any (·.parameter = p) then .error (.fault (.repeated p))
  else
    match c with
    | .ok c => .ok { s with choices := s.choices ++ [c] }
    | .error f => .error (.fault f)

def settle (s : Parsing) : Except Stop Parsing :=
  match s.pending with
  | none => .ok s
  | some ⟨p, none⟩ => .error (.fault (.noValue p))
  | some ⟨p, some value⟩ => { s with pending := none }.add p (p.choose value)

def flag (s : Parsing) (p : Parameter) : Except Stop Parsing := do
  let s ← s.settle
  match p with
  | .help => .error (.display .help)
  | .version => .error (.display .version)
  | .dryRun => s.add p (.ok .dryRun)
  | .pretty => s.add p (.ok .pretty)
  | .verbose => s.add p (.ok .verbose)
  | _ => .error (.fault (.noValue p))

def valued (s : Parsing) (p : Parameter) (attached : Option Bytes) : Except Stop Parsing := do
  let s ← s.settle
  match attached with
  | some value => s.add p (p.choose value)
  | none => return { s with pending := some ⟨p, none⟩ }

def hyphen : UInt8 := 0x2d

def equals : UInt8 := 0x3d

def unexpected (word : Bytes) : Except Stop Parsing := .error (.fault (.unexpected word))

def long (s : Parsing) (body : Bytes) : Except Stop Parsing :=
  let name := body.takeWhile (· ≠ equals)
  let attached := if name.length < body.length then some (body.drop (name.length + 1)) else none
  match Parameter.ofLong? name, attached with
  | none, _ => unexpected (hyphen :: hyphen :: name)
  | some p, attached =>
    if p.takesValue then s.valued p attached
    else
      match attached with
      | some value => .error (.fault (.unexpectedValue p value))
      | none => s.flag p

/-- The letters of a word that begins with one hyphen. `rest` holds the bytes after them that are
no text. -/
def cluster (s : Parsing) (rest : Bytes) : List Char → Except Stop Parsing
  | [] => if rest = [] then .ok s else unexpected (hyphen :: rest)
  | c :: letters =>
    match Parameter.ofShort? c with
    | none => unexpected (hyphen :: Utf8.encode c.toString)
    | some p =>
      if p.takesValue then
        match Utf8.encode (String.ofList letters) ++ rest with
        | [] => s.valued p none
        | first :: value =>
          s.valued p (some (if first = equals then value else first :: value))
      else do (← s.flag p).cluster rest letters

def plain (s : Parsing) (word : Bytes) : Except Stop Parsing :=
  match s.pending with
  | some ⟨p, none⟩ => .ok { s with pending := some ⟨p, some word⟩ }
  | _ => unexpected word

def step (s : Parsing) (word : Bytes) : Except Stop Parsing :=
  if s.closed then unexpected word
  else
    match word with
    | first :: second :: body =>
      if first = hyphen ∧ second = hyphen then
        if body = [] then .ok { s with closed := true } else s.long body
      else if first = hyphen then
        let (letters, rest) := Utf8.splitValid (second :: body)
        s.cluster rest ((Utf8.decode? letters).getD "").toList
      else s.plain word
    | _ => s.plain word

end Parsing

def choices (words : List Bytes) : Except Stop (List Choice) := do
  let s ← words.foldlM Parsing.step {}
  return (← s.settle).choices

inductive Request
  | run (invocation : Invocation)
  | display (d : Display) (text : String)
deriving DecidableEq, Repr

def parse (arguments : List Bytes) : Except Fault Request :=
  match choices arguments.tail with
  | .ok made => do
    check made
    return .run (← invocation made)
  | .error (.fault f) => .error f
  | .error (.display d) => .ok (.display d (d.text (calledName arguments)))

end TestMatrix.Arguments
