import TestMatrix.Yaml.Fault
import TestMatrix.Yaml.Token
namespace TestMatrix.Yaml

/-- What stands before a value. Anchors are numbered by how many names were in use when they were
set; a name that is set again gets a new number. -/
structure Properties where
  anchor : Option Nat := none
  tag : Option Bytes := none
deriving DecidableEq, Repr

inductive Node
  | scalar (properties : Properties) (style : Style) (text : String)
  | sequence (properties : Properties) (items : List Node)
  | mapping (properties : Properties) (entries : List (Node × Node))
  | reference (anchor : Nat)
deriving Repr

namespace Node

def empty (p : Properties) : Node := .scalar p .plain ""

def anchor? : Node → Option Nat
  | scalar p .. | sequence p _ | mapping p _ => p.anchor
  | reference _ => none

mutual

def all : Node → List Node
  | scalar p style text => [scalar p style text]
  | sequence p items => sequence p items :: allItems items
  | mapping p entries => mapping p entries :: allEntries entries
  | reference n => [reference n]

def allItems : List Node → List Node
  | [] => []
  | item :: rest => item.all ++ allItems rest

def allEntries : List (Node × Node) → List Node
  | [] => []
  | (key, value) :: rest => key.all ++ value.all ++ allEntries rest

end

end Node

structure Document where
  root : Option Node
deriving Repr

namespace Document

def anchored? (d : Document) (n : Nat) : Option Node := do
  let root ← d.root
  (root.all.filter (·.anchor? = some n)).getLast?

def resolve (d : Document) : Node → Node
  | .reference n => (d.anchored? n).getD (.reference n)
  | node => node

end Document

end TestMatrix.Yaml
