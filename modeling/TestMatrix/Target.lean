import TestMatrix.Convention
import TestMatrix.Manifest.Basic
import TestMatrix.Path
namespace TestMatrix

def targetPath (directory target : String) : String :=
  String.ofList (joinAt '/' directory.toList target.toList)

namespace Convention

def record? (c : Convention) (directory filename : String) : Option Record := do
  let (name, target) ← c.split? filename
  let testName := target ++ c.targetMarker
  return ⟨name, testName, targetPath directory testName⟩

end Convention

/-- A source directory is always taken relative to the working directory, and shown so. -/
def normalizeSource (source : String) : String :=
  match source.toList with
  | '/' :: _ => "." ++ source
  | '.' :: '/' :: _ => source
  | _ => "./" ++ source

end TestMatrix
