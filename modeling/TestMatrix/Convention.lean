import TestMatrix.Text.Affix
namespace TestMatrix

open Text

/-- A test source is named `target ++ testMarker ++ extension`, and what it builds is named
`target ++ targetMarker`. -/
structure Convention where
  extension : String := ".c"
  testMarker : String := "_test"
  targetMarker : String := "_unit_test"
deriving DecidableEq, Repr

namespace Convention

inductive Fault
  | extension (text : String)
  | noTestMarker
  | noTargetMarker
  | sameMarkers (marker : String)
deriving DecidableEq, Repr

def Fault.message : Fault → String
  | .extension text => s!"Invalid extension '{text}'. It must start with a dot, e.g. '.c'."
  | .noTestMarker => "The test marker must not be empty."
  | .noTargetMarker => "The target marker must not be empty."
  | .sameMarkers marker =>
    s!"The test marker and the target marker are both '{marker}'. " ++
      "Build targets must be named differently from test sources."

def suffix (c : Convention) : String := c.testMarker ++ c.extension

def fault? (c : Convention) : Option Fault :=
  if Affix.startsWith c.extension "." = false ∨ c.extension.utf8ByteSize < 2 then
    some (.extension c.extension)
  else if c.testMarker = "" then some .noTestMarker
  else if c.targetMarker = "" then some .noTargetMarker
  else if c.testMarker = c.targetMarker then some (.sameMarkers c.testMarker)
  else none

def recognises (c : Convention) (filename : String) : Bool := Affix.endsWith filename c.suffix

def split? (c : Convention) (filename : String) : Option (String × String) := do
  let name ← Affix.stripEnd? filename c.extension
  let target ← Affix.stripEnd? name c.testMarker
  return (name, target)

end Convention

end TestMatrix
