import TestMatrix.Text.Lowercase
namespace TestMatrix

inductive Level
  | error
  | warning
  | info
  | debug
  | trace
deriving DecidableEq, Repr

namespace Level

def rank : Level → Nat
  | error => 0
  | warning => 1
  | info => 2
  | debug => 3
  | trace => 4

def admits (threshold message : Level) : Bool := message.rank ≤ threshold.rank

def name : Level → String
  | error => "Error"
  | warning => "Warning"
  | info => "Info"
  | debug => "Debug"
  | trace => "Trace"

def label : Level → String
  | error => "ERROR"
  | warning => "WARN"
  | info => "INFO"
  | debug => "DEBUG"
  | trace => "TRACE"

def colour : Level → Nat
  | error => 31
  | warning => 33
  | info => 37
  | debug => 37
  | trace => 90

def words : List (String × Level) :=
  [("error", error), ("warn", warning), ("warning", warning), ("info", info), ("debug", debug),
   ("trace", trace)]

def ofWord? (s : String) : Option Level := words.lookup (Text.Lowercase.ofString s)

def unknownWord (s : String) : String := s!"Unknown verbosity level: {s}"

/-- The level asked for by repeating a flag, which is counted in one byte. -/
def ofCount (count : UInt8) : Level :=
  if count = 0 then warning
  else if count = 1 then info
  else if count = 2 then debug
  else trace

end Level

end TestMatrix
