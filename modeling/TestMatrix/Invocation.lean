import TestMatrix.Arguments.Choice
import TestMatrix.Settings
namespace TestMatrix

structure Invocation where
  source : String
  config : Option Path := none
  overrides : Overrides := {}
  dryRun : Bool := false
  verbosity : Level := .warning
  logFile : Option String := none
deriving DecidableEq, Repr

namespace Arguments

def find {α : Type} (choices : List Choice) (kind : Choice → Option α) : Option α :=
  choices.findSome? kind

/-- The number of `verbose` flags, which stays at 255 once it gets there. -/
def verboseCount (choices : List Choice) : UInt8 :=
  choices.foldl (fun n c ↦ if c = .verbose then (if n = 255 then 255 else n + 1) else n) 0

def verbosity (choices : List Choice) : Level :=
  match find choices fun | .logLevel l => some l | _ => none with
  | some l => l
  | none => .ofCount (verboseCount choices)

def overrides (choices : List Choice) : Overrides where
  output := find choices fun | .output p => some p | _ => none
  pretty := choices.contains .pretty
  extension := find choices fun | .extension s => some s | _ => none
  testMarker := find choices fun | .testMarker s => some s | _ => none
  targetMarker := find choices fun | .targetMarker s => some s | _ => none

/-- The two ways to set the level exclude each other. The one that was settled first is named
first, and `verbose` is settled by its last flag. -/
def conflict? (choices : List Choice) : Option Fault :=
  let levels := choices.filter fun c ↦ c.parameter = .verbose || c.parameter = .logLevel
  match levels.getLast? with
  | none => none
  | some last =>
    (levels.find? (·.parameter ≠ last.parameter)).map fun other ↦
      .conflict other.parameter last.parameter

def check (choices : List Choice) : Except Fault Unit :=
  match conflict? choices with
  | some fault => .error fault
  | none => if choices.any (·.parameter = .source) then .ok () else .error .noSource

def invocation (choices : List Choice) : Except Fault Invocation :=
  match find choices fun | .source s => some s | _ => none with
  | none => .error .sourceRequired
  | some source =>
    .ok
      { source
        config := find choices fun | .config p => some p | _ => none
        overrides := overrides choices
        dryRun := choices.contains .dryRun
        verbosity := verbosity choices
        logFile := find choices fun | .logFile s => some s | _ => none }

end Arguments

end TestMatrix
