import TestMatrix.Discovery
import TestMatrix.Invocation
import TestMatrix.Manifest.Rendering
import TestMatrix.SettingsFile
import TestMatrix.Text.Blank
namespace TestMatrix

open Text Script

namespace Settings

def unreadable (file : Path) (fault : Yaml.Fault) : Failure :=
  .configParsing s!"{file.display} could not be parsed. Please check the YAML syntax."
    (.described fault.message)

/-- The settings that a file holds. A blank file holds none. -/
def load (file : Path) : Script Settings := do
  let content ← read file (orFail (.unreadableConfig file))
  match Utf8.decode? content with
  | none => fail (.undecodableConfig file ((Utf8.fault? content).getD (.incomplete 0)))
  | some text =>
    if Blank.isBlankText text then
      tell (.emptyConfig file)
      return {}
    else orFail (unreadable file) (ofText text)

/-- The settings of a run: those of its file, if it has one, overridden by the command line. They are
checked last. -/
def resolve (config : Option Path) (o : Overrides) : Script Settings := do
  let base ←
    match config with
    | some file => do
      tell (.readingSettings file)
      load file
    | none => done {}
  let settings := base.override o
  match settings.fault? with
  | some fault => fail (.invalidSettings fault)
  | none =>
    tell (.resolved settings)
    return settings

end Settings

def Manifest.save (m : Manifest) (output : Path) (pretty : Bool) : Script Unit := do
  let content := Utf8.encode (m.render pretty)
  tell (.writing content.length output)
  Script.write output content (orFail fun e ↦ .fileOperation "write" output (.system e))

inductive Deployment
  | written (output : Path) (tests : Nat)
  | rendered (text : String)
deriving DecidableEq, Repr

/-- The whole run. A dry one shows the manifest and writes nothing. -/
def deploy (i : Invocation) : Script Deployment := do
  let settings ← Settings.resolve i.config i.overrides
  let manifest ← Discovery.build settings.convention i.source
  tell (.found manifest.size i.source)
  if i.dryRun then return .rendered (manifest.render settings.pretty)
  manifest.save settings.output settings.pretty
  return .written settings.output manifest.size

end TestMatrix
