import TestMatrix.Arguments.Parsing
import TestMatrix.Deployment
namespace TestMatrix

open Text

def usage : String :=
  "\nWrong arguments\nUse: test-deployer --source <target directory>\n"

/-- Where standard output goes: whether to a terminal, and whether colours and the styles of a help
text are let through. The environment can settle these two either way. -/
structure Console where
  terminal : Bool := false
  colours : Bool := false
  styles : Bool := false
deriving DecidableEq, Repr

def Console.paint (console : Console) (start text : String) : String :=
  if console.colours then Terminal.setOff start text else text

def successMessage (source : String) (console : Console := {}) : String :=
  let made := "JSON created successfully for folder"
  if console.terminal then
    s!"{console.paint Terminal.green made} {console.paint Terminal.bold source}"
  else s!"{made} {source}"

inductive Message
  | plain (text : String)
  | notice (n : Notice)
deriving DecidableEq, Repr

def Message.text : Message → String
  | plain text => text ++ "\n"
  | notice n => n.coloured ++ "\n"

structure Outcome where
  status : Nat
  output : String
  messages : List Message
  workspace : Workspace

namespace Outcome

def errors (o : Outcome) : String := String.join (o.messages.map Message.text)

end Outcome

namespace Program

def script (i : Invocation) : Script Deployment := do
  Script.tell (.ready i.verbosity)
  let made ← deploy i
  match made with
  | .written output tests => Script.tell (.wrote tests output)
  | .rendered _ => pure ()
  return made

def successText (console : Console) (i : Invocation) : Deployment → String
  | .written .. => successMessage i.source console ++ "\n"
  | .rendered text => text ++ "\n"

def runLogged (l : Logger) (w : Workspace) (i : Invocation) (console : Console) : Outcome :=
  match (script i).run l { workspace := w } with
  | (.ok made, s) => ⟨0, successText console i made, s.shown.map .notice, s.workspace⟩
  | (.error failure, s) =>
    let s := s.report l (.failed failure)
    ⟨1, "", s.shown.map .notice, s.workspace⟩

def noLog (e : SystemError) : Message := .plain s!"Failed to initialise logging: {e.message}"

def usageText : String := usage ++ "\n"

def refusal (fault : Arguments.Fault) : Message := .plain (Failure.usage fault.message).message

/-- Opens the log file, unless its name is empty, and runs. -/
def invoke (clock : Nat → String) (w : Workspace) (i : Invocation) (console : Console) : Outcome :=
  let threshold := some i.verbosity
  match i.logFile with
  | none | some "" => runLogged { threshold, clock } w i console
  | some file =>
    match w.openFile (.ofString file) with
    | .ok (copy, w) => runLogged { threshold, copy, clock } w i console
    | .error e => ⟨1, "", [noLog e], w⟩

def run (clock : Nat → String) (w : Workspace) (arguments : List Bytes) (console : Console := {}) :
    Outcome :=
  match Arguments.parse arguments with
  | .ok (.run i) => invoke clock w i console
  | .ok (.display d text) =>
    ⟨0, if console.styles then d.styled (Arguments.calledName arguments) else text, [], w⟩
  | .error fault => ⟨1, usageText, [refusal fault], w⟩

end Program

end TestMatrix
