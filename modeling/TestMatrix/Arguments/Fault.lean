import TestMatrix.Arguments.Parameter
import TestMatrix.Level
import TestMatrix.Text.Terminal
namespace TestMatrix.Arguments

open Text

inductive Fault
  | unexpected (word : Bytes)
  | unexpectedValue (p : Parameter) (value : Bytes)
  | noValue (p : Parameter)
  | repeated (p : Parameter)
  | notText
  | unknownLevel (word : String)
  | conflict (p q : Parameter)
  | noSource
  | sourceRequired
deriving DecidableEq, Repr

namespace Fault

def shown (word : Bytes) : String := Terminal.plain (Utf8.lossy word)

def hint : String := "\n\nFor more information, try '"

/-- A sequence left open by the word swallows the hint, and the highlighted word ends it. -/
def text : Fault → String
  | unexpected word => s!"unexpected argument '{shown word}' found"
  | unexpectedValue p value =>
    s!"unexpected value '{shown value}' for '{p.display}' found; no more were expected"
  | noValue p => s!"a value is required for '{p.display}' but none was supplied"
  | repeated p => s!"the argument '{p.display}' cannot be used multiple times"
  | notText => "invalid UTF-8 was detected in one or more arguments"
  | unknownLevel word =>
    s!"invalid value '{Terminal.plain word}' for '{Parameter.logLevel.display}': " ++
      Terminal.plain (Level.unknownWord word ++ hint) ++ "--help'."
  | conflict p q => s!"the argument '{p.display}' cannot be used with '{q.display}'"
  | noSource => "the following required arguments were not provided:"
  | sourceRequired => s!"the argument '{Parameter.source.display}' is required"

def firstLine (s : String) : String :=
  let line := s.toList.takeWhile (· ≠ '\n')
  String.ofList (if line.getLast? = some '\r' then line.dropLast else line)

def message (f : Fault) : String := firstLine f.text

end Fault

end TestMatrix.Arguments
