import TestMatrix.Failure
import TestMatrix.Level
namespace TestMatrix

open Text

inductive Notice
  | ready (threshold : Level)
  | readingSettings (file : Path)
  | emptyConfig (file : Path)
  | resolved (settings : Settings)
  | normalized (source directory : String)
  | scanning (directory : Path)
  | irregular (path : Path)
  | unnamed (path : Path)
  | listed (files : Nat)
  | unmatched (filename : String)
  | matched (filename testName : String)
  | tally (tests files : Nat) (directory : String)
  | found (tests : Nat) (source : String)
  | writing (bytes : Nat) (output : Path)
  | wrote (tests : Nat) (output : Path)
  | failed (failure : Failure)
deriving DecidableEq, Repr

namespace Notice

def level : Notice → Level
  | readingSettings _ | matched .. | found .. | wrote .. => .info
  | unnamed _ => .warning
  | unmatched _ => .trace
  | failed _ => .error
  | _ => .debug

/-- The part of the program that reports it, as the log file names it. -/
def origin : Notice → String
  | ready _ => "test_deployer::logging"
  | readingSettings _ | emptyConfig _ | resolved _ => "test_deployer::config::loader"
  | scanning _ | irregular _ | unnamed _ | listed _ => "test_deployer::discovery::scanner"
  | unmatched _ | matched .. | tally .. => "test_deployer::discovery::matcher"
  | writing .. => "test_deployer::manifest::writer"
  | normalized .. | found .. | wrote .. | failed _ => "test_deployer"

def text : Notice → String
  | ready threshold => s!"Logger initialized with verbosity level: {threshold.name}"
  | readingSettings file => s!"Reading settings from {file.display}"
  | emptyConfig file => s!"Configuration file {file.display} is empty"
  | resolved settings => s!"Resolved settings: {settings.display}"
  | normalized source directory =>
    s!"Normalized source {Quoted.text source} to {Quoted.text directory}"
  | scanning directory => s!"Scanning directory: {directory.display}"
  | irregular path => s!"Skipping {path.display}: not a regular file"
  | unnamed path => s!"Skipping entry: {(Failure.invalidFilename path).message}"
  | listed files => s!"Found {files} files in directory"
  | unmatched filename => s!"{filename} is not a test source"
  | matched filename testName => s!"{filename} found! Building {testName}."
  | tally tests files directory => s!"Matched {tests} of {files} files in {directory}"
  | found tests source => s!"Found {tests} test(s) in {source}"
  | writing bytes output => s!"Writing {bytes} bytes to {output.display}"
  | wrote tests output => s!"Wrote {tests} test(s) to {output.display}"
  | failed failure => failure.report

def coloured (n : Notice) : String := s!"\x1b[{n.level.colour}m{n.text}\x1b[0m"

def logLine (time : String) (n : Notice) : String :=
  s!"[{time} {n.level.label} {n.origin}] {n.text}"

end Notice

end TestMatrix
