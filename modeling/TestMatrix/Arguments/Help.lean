import TestMatrix.Arguments.Fault
import TestMatrix.Path
namespace TestMatrix.Arguments

open Text

inductive Display
  | help
  | version
deriving DecidableEq, Repr

/-- How headings are set in a help text, and what is to be typed as it stands. -/
structure Face where
  heading : String → String
  literal : String → String

namespace Face

def bare : Face := ⟨id, id⟩

def styled : Face where
  heading := Terminal.wrap (Terminal.bold ++ Terminal.underlined)
  literal := Terminal.wrap Terminal.bold

end Face

namespace Parameter

def forms (face : Face) (p : Parameter) : String :=
  match p.short? with
  | some c => face.literal s!"-{c}" ++ ", " ++ face.literal s!"--{p.long}" ++ p.suffix
  | none => "    " ++ face.literal s!"--{p.long}" ++ p.suffix

def helpLine (face : Face) (width : Nat) (p : Parameter) : String :=
  let padding := String.ofList (List.replicate (width - (p.forms .bare).length) ' ')
  s!"  {p.forms face}{padding}  {p.about}\n"

end Parameter

def calledName (arguments : List Bytes) : String :=
  ((do Utf8.decode? (← Path.fileName? ⟨← arguments.head?⟩)) : Option String).getD programName

namespace Display

def name : Display → String
  | help => "help"
  | version => "version"

def set (face : Face) (name : String) : Display → String
  | version => s!"{programName} {programVersion}\n"
  | help =>
    let width := (Parameter.all.map fun p ↦ (p.forms .bare).length).foldl max 0
    "Discovers unit-test sources and writes the CI test matrix manifest\n\n" ++
      face.heading "Usage:" ++ " " ++ face.literal name ++ " [OPTIONS] " ++
      face.literal "--source" ++ " <DIR>\n\n" ++ face.heading "Options:" ++ "\n" ++
      String.join (Parameter.all.map (·.helpLine face width))

def text (name : String) (d : Display) : String := d.set .bare (Terminal.plain name)

def styled (name : String) (d : Display) : String := d.set .styled name

end Display

end TestMatrix.Arguments
