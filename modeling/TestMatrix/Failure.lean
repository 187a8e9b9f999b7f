import TestMatrix.Path
import TestMatrix.Settings
import TestMatrix.SystemError
namespace TestMatrix

open Text

/-- What stands behind a failure: the system, or something that describes itself. -/
inductive Cause
  | system (error : SystemError)
  | described (text : String)
deriving DecidableEq, Repr

def Cause.message : Cause → String
  | .system error => error.message
  | .described text => text

inductive Failure
  | usage (message : String)
  | fileOperation (operation : String) (path : Path) (cause : Cause)
  | invalidFilename (path : Path)
  | serialization (detail : String) (cause : Cause)
  | configParsing (detail : String) (cause : Cause)
  | unreadableConfig (path : Path) (error : SystemError)
  | undecodableConfig (path : Path) (fault : Utf8.Fault)
  | invalidSettings (fault : Settings.Fault)
deriving DecidableEq, Repr

namespace Failure

def isUsage : Failure → Bool
  | usage _ => true
  | _ => false

def message : Failure → String
  | usage message => s!"Wrong arguments: {message}"
  | fileOperation operation path _ => s!"Failed to {operation} {path.display}"
  | invalidFilename path => s!"Filename is not valid unicode: {path.display}"
  | serialization detail _ => s!"Failed to serialize {detail}"
  | configParsing detail _ => s!"Configuration parsing error: {detail}"
  | unreadableConfig path error =>
    s!"Failed to read configuration file {path.display}: {error.message}"
  | undecodableConfig path fault =>
    s!"Configuration file {path.display} contains invalid UTF-8 characters: {fault.message}"
  | invalidSettings fault => fault.message

def cause? : Failure → Option Cause
  | fileOperation _ _ cause | serialization _ cause | configParsing _ cause => some cause
  | _ => none

def report (f : Failure) : String :=
  match f.cause? with
  | some cause => s!"{f.message}: {cause.message}"
  | none => f.message

end Failure

end TestMatrix
