import TestMatrix.Json.Layout
import TestMatrix.Manifest.Basic
namespace TestMatrix

open Json

def Record.write (r : Record) (l : Layout) : List Char :=
  l.object 2 [("name", quote r.name), ("test_name", quote r.testName), ("path", quote r.path)]

def Manifest.write (m : Manifest) (l : Layout) : List Char :=
  l.object 0 [("include", l.array 1 (m.records.map (·.write l)))]

def Manifest.render (m : Manifest) (pretty : Bool) : String :=
  String.ofList (m.write (.ofPretty pretty))

end TestMatrix
