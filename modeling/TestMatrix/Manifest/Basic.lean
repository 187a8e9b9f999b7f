namespace TestMatrix

structure Record where
  name : String
  testName : String
  path : String
deriving DecidableEq, Repr

structure Manifest where
  records : List Record := []
deriving DecidableEq, Repr

namespace Manifest

def push (m : Manifest) (r : Record) : Manifest := ⟨m.records ++ [r]⟩

def size (m : Manifest) : Nat := m.records.length

def isEmpty (m : Manifest) : Bool := m.records.isEmpty

end Manifest

end TestMatrix
