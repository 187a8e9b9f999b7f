import Std.Time.Format
import TestMatrix.Program
namespace TestMatrix.Live

open Text

/-- The system's number may come with its sign turned. -/
def systemError : IO.Error → SystemError
  | .alreadyExists _ n _ | .otherError n _ | .resourceBusy n _ | .resourceVanished n _
  | .unsupportedOperation n _ | .hardwareFault n _ | .unsatisfiedConstraints n _
  | .illegalOperation n _ | .protocolError n _ | .timeExpired n _ | .interrupted _ n _
  | .noFileOrDirectory _ n _ | .invalidArgument _ n _ | .permissionDenied _ n _
  | .resourceExhausted _ n _ | .inappropriateType _ n _ | .noSuchThing _ n _ =>
    .code n.toInt32.toInt.natAbs
  | .unexpectedEof | .userError _ => .code 5

/-- Asks the system about a path. Only a path that is text can be handed to it. -/
def attempt {α : Type} (p : Path) (act : String → IO α) : IO (Except SystemError α) := do
  if 0 ∈ p.bytes then return .error .zeroByte
  match Utf8.decode? p.bytes with
  | none => return .error (.code 84)
  | some name =>
    try return .ok (← act name)
    catch e => return .error (systemError e)

def readFile (name : String) : IO Bytes := do return (← IO.FS.readBinFile name).data.toList

def listFolder (name : String) : IO (List (Except SystemError Name)) := do
  let entries ← (← IO.FS.realPath name).readDir
  return (entries.toList.filterMap fun e ↦ Name.ofBytes? (Utf8.encode e.fileName)).map .ok

def isRegular (name : String) : IO Bool := do
  return (← (← IO.FS.realPath name).metadata).type == .file

def writeFile (content : Bytes) (name : String) : IO Unit :=
  IO.FS.writeBinFile name ⟨content.toArray⟩

structure Log where
  threshold : Level
  copy : Option IO.FS.Handle

def Log.report (l : Log) (n : Notice) : IO Unit := do
  if l.threshold.admits n.level then
    if let some file := l.copy then
      let time := (← Std.Time.DateTime.now).format "uuuu-MM-dd'T'HH:mm:ssXXX"
      file.putStr (n.logLine time ++ "\n")
      file.flush
    IO.eprint (Message.notice n).text

def perform {α : Type} (l : Log) : Script α → IO (Except Failure α)
  | .done value => return .ok value
  | .fail failure => return .error failure
  | .report notice next => do
    l.report notice
    perform l next
  | .read path next => do
    let answer ← attempt path readFile
    perform l (next answer)
  | .list path next => do
    let answer ← attempt path listFolder
    perform l (next answer)
  | .isFile path next => do
    let answer ← attempt path isRegular
    perform l (next (answer.toOption.getD false))
  | .write path content next => do
    let answer ← attempt path (writeFile content)
    perform l (next answer)

/-- Colours and styles heed the same variables, but not in the same order. -/
def console : IO Console := do
  let terminal ← (← IO.getStdout).isTty
  let plain ← IO.getEnv "NO_COLOR"
  let wanted ← IO.getEnv "CLICOLOR"
  let forced := (← IO.getEnv "CLICOLOR_FORCE").any (· != "0")
  let able := (← IO.getEnv "TERM").any (· != "dumb") || wanted.isSome || (← IO.getEnv "CI").isSome
  let kept := wanted != some "0"
  return {
    terminal
    colours := forced || plain.isNone && kept && terminal
    styles := !plain.any (· != "") && (forced || kept && terminal && able) }

def finish (i : Invocation) (l : Log) : IO UInt32 := do
  match ← perform l (Program.script i) with
  | .ok made =>
    IO.print (Program.successText (← console) i made)
    return 0
  | .error failure =>
    l.report (.failed failure)
    return 1

def invoke (i : Invocation) : IO UInt32 := do
  match i.logFile with
  | none | some "" => finish i ⟨i.verbosity, none⟩
  | some file =>
    match ← attempt (.ofString file) fun name ↦ IO.FS.Handle.mk name .append with
    | .ok copy => finish i ⟨i.verbosity, some copy⟩
    | .error e =>
      IO.eprint (Program.noLog e).text
      return 1

end TestMatrix.Live

def main (words : List String) : IO UInt32 := do
  let name := (← IO.appPath).fileName.getD TestMatrix.programName
  let arguments := (name :: words).map TestMatrix.Text.Utf8.encode
  match TestMatrix.Arguments.parse arguments with
  | .ok (.run i) => TestMatrix.Live.invoke i
  | .ok (.display d text) =>
    if (← TestMatrix.Live.console).styles then
      IO.print (d.styled (TestMatrix.Arguments.calledName arguments))
    else IO.print text
    return 0
  | .error fault =>
    IO.print TestMatrix.Program.usageText
    IO.eprint (TestMatrix.Program.refusal fault).text
    return 1
