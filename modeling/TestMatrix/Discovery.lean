import TestMatrix.Script
import TestMatrix.Target
namespace TestMatrix

open Text Script

structure FoundFile where
  path : Path
  filename : String
deriving DecidableEq, Repr

namespace FoundFile

def ofPath (p : Path) : Except Failure FoundFile :=
  match p.fileName?.bind Utf8.decode? with
  | some filename => .ok ⟨p, filename⟩
  | none => .error (.invalidFilename p)

def le (a b : FoundFile) : Bool := Utf8.encode a.filename ≤ Utf8.encode b.filename

def insert (f : FoundFile) : List FoundFile → List FoundFile
  | [] => [f]
  | g :: rest => if f.le g then f :: g :: rest else g :: insert f rest

def sort (files : List FoundFile) : List FoundFile := files.foldr insert []

end FoundFile

namespace Discovery

/-- The regular files among the entries. Anything else is passed over, as is a name that is no text. -/
def examine (directory : Path) : List (Except SystemError Name) → Script (List FoundFile)
  | [] => done []
  | .error e :: _ => fail (.fileOperation "read entry of" directory (.system e))
  | .ok name :: rest =>
    let path := directory.join ⟨name.bytes⟩
    isFile path fun regular ↦
      if !regular then report (.irregular path) (examine directory rest)
      else
        match FoundFile.ofPath path with
        | .ok file => (file :: ·) <$> examine directory rest
        | .error _ => report (.unnamed path) (examine directory rest)

def scan (directory : Path) : Script (List FoundFile) := do
  tell (.scanning directory)
  let entries ← list directory (orFail fun e ↦ .fileOperation "list directory" directory (.system e))
  let files ← examine directory entries
  let files := FoundFile.sort files
  tell (.listed files.length)
  return files

def collect (c : Convention) (directory : String) : List String → Script (List Record)
  | [] => done []
  | filename :: rest =>
    if !c.recognises filename then report (.unmatched filename) (collect c directory rest)
    else
      match c.record? directory filename with
      | some r => report (.matched filename r.testName) ((r :: ·) <$> collect c directory rest)
      | none => collect c directory rest

def matchFiles (c : Convention) (directory : String) (filenames : List String) :
    Script (List Record) := do
  let records ← collect c directory filenames
  tell (.tally records.length filenames.length directory)
  return records

def build (c : Convention) (source : String) : Script Manifest := do
  let directory := normalizeSource source
  tell (.normalized source directory)
  let files ← scan (.ofString directory)
  return ⟨← matchFiles c directory (files.map (·.filename))⟩

end Discovery

end TestMatrix
