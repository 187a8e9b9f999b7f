import TestMatrix.Convention
import TestMatrix.Path
import TestMatrix.Text.Quoted
namespace TestMatrix

open Text

structure Settings where
  output : Path := .ofString ".github/workflows/test-list.json"
  pretty : Bool := false
  convention : Convention := {}
deriving DecidableEq, Repr

structure Overrides where
  output : Option Path := none
  pretty : Bool := false
  extension : Option String := none
  testMarker : Option String := none
  targetMarker : Option String := none
deriving DecidableEq, Repr

namespace Settings

inductive Fault
  | noOutput
  | convention (fault : Convention.Fault)
deriving DecidableEq, Repr

def Fault.message : Fault → String
  | .noOutput => "No output file specified. Please give the manifest a location."
  | .convention fault => fault.message

def fault? (s : Settings) : Option Fault :=
  if s.output.bytes = [] then some .noOutput else s.convention.fault?.map .convention

/-- An override wins; the manifest is pretty if either side says so. -/
def override (s : Settings) (o : Overrides) : Settings where
  output := o.output.getD s.output
  pretty := s.pretty || o.pretty
  convention :=
    { extension := o.extension.getD s.convention.extension
      testMarker := o.testMarker.getD s.convention.testMarker
      targetMarker := o.targetMarker.getD s.convention.targetMarker }

def display (s : Settings) : String :=
  let c := s.convention
  s!"Settings \x7b output: {Quoted.bytes s.output.bytes}, pretty: {s.pretty}, " ++
    s!"convention: Convention \x7b extension: {Quoted.text c.extension}, " ++
    s!"test_marker: {Quoted.text c.testMarker}, " ++
    s!"target_marker: {Quoted.text c.targetMarker} \x7d \x7d"

end Settings

end TestMatrix
