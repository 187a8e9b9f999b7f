import TestMatrix.Text.Utf8
namespace TestMatrix

def programName : String := "test-deployer"

def programVersion : String := "1.0.0"

namespace Arguments

open Text

inductive Parameter
  | source
  | output
  | config
  | dryRun
  | pretty
  | extension
  | testMarker
  | targetMarker
  | verbose
  | logLevel
  | logFile
  | help
  | version
deriving DecidableEq, Repr

namespace Parameter

def all : List Parameter :=
  [source, output, config, dryRun, pretty, extension, testMarker, targetMarker, verbose, logLevel,
   logFile, help, version]

def long : Parameter → String
  | source => "source"
  | output => "output"
  | config => "config"
  | dryRun => "dry-run"
  | pretty => "pretty"
  | extension => "extension"
  | testMarker => "test-marker"
  | targetMarker => "target-marker"
  | verbose => "verbose"
  | logLevel => "log-level"
  | logFile => "log-file"
  | help => "help"
  | version => "version"

def short? : Parameter → Option Char
  | source => some 's'
  | output => some 'o'
  | config => some 'c'
  | dryRun => some 'n'
  | pretty => some 'p'
  | verbose => some 'v'
  | logFile => some 'l'
  | help => some 'h'
  | version => some 'V'
  | _ => none

def placeholder? : Parameter → Option String
  | source => some "DIR"
  | output | config | logFile => some "FILE"
  | extension => some "EXT"
  | testMarker | targetMarker => some "MARKER"
  | logLevel => some "LEVEL"
  | _ => none

def takesValue (p : Parameter) : Bool := p.placeholder?.isSome

def about : Parameter → String
  | source => "Directory containing the unit-test sources"
  | output => "Write the manifest to this file instead of the default location"
  | config => "Read settings from a specific YAML config file"
  | dryRun => "Print the manifest instead of writing it"
  | pretty => "Pretty-print the manifest JSON"
  | extension => "Extension of the test sources (default: .c)"
  | testMarker => "Marker ending every test source name (default: _test)"
  | targetMarker => "Marker ending every build target name (default: _unit_test)"
  | verbose => "Increase verbosity level (can be used multiple times)"
  | logLevel => "Set the verbosity level: error, warn, info, debug or trace"
  | logFile => "Also write log messages to this file"
  | help => "Print help"
  | version => "Print version"

def suffix (p : Parameter) : String :=
  match p.placeholder? with
  | some value => s!" <{value}>"
  | none => if p = verbose then "..." else ""

def display (p : Parameter) : String := s!"--{p.long}{p.suffix}"

def ofLong? (name : Bytes) : Option Parameter := all.find? fun p ↦ Utf8.encode p.long = name

def ofShort? (c : Char) : Option Parameter := all.find? fun p ↦ p.short? = some c

end Parameter

end Arguments

end TestMatrix
