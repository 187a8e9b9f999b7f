import TestMatrix.Arguments.Fault
import TestMatrix.Path
namespace TestMatrix.Arguments

open Text

inductive Choice
  | source (directory : String)
  | output (file : Path)
  | config (file : Path)
  | dryRun
  | pretty
  | extension (text : String)
  | testMarker (text : String)
  | targetMarker (text : String)
  | verbose
  | logLevel (level : Level)
  | logFile (file : String)
deriving DecidableEq, Repr

namespace Choice

def parameter : Choice → Parameter
  | source _ => .source
  | output _ => .output
  | config _ => .config
  | dryRun => .dryRun
  | pretty => .pretty
  | extension _ => .extension
  | testMarker _ => .testMarker
  | targetMarker _ => .targetMarker
  | verbose => .verbose
  | logLevel _ => .logLevel
  | logFile _ => .logFile

end Choice

namespace Parameter

def text (value : Bytes) : Except Fault String :=
  match Utf8.decode? value with
  | some s => .ok s
  | none => .error .notText

def file (p : Parameter) (value : Bytes) : Except Fault Path :=
  if value = [] then .error (.noValue p) else .ok ⟨value⟩

def level (value : Bytes) : Except Fault Level := do
  let word ← text value
  match Level.ofWord? word with
  | some l => return l
  | none => throw (.unknownLevel word)

/-- A path is any bytes but none; every other value is text. -/
def choose (p : Parameter) (value : Bytes) : Except Fault Choice :=
  match p with
  | source => .source <$> text value
  | output => .output <$> file .output value
  | config => .config <$> file .config value
  | extension => .extension <$> text value
  | testMarker => .testMarker <$> text value
  | targetMarker => .targetMarker <$> text value
  | logLevel => .logLevel <$> level value
  | logFile => .logFile <$> text value
  | p => .error (.unexpectedValue p value)

end Parameter

end TestMatrix.Arguments
