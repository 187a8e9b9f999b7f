import TestMatrix.Text.Utf8
namespace TestMatrix

/-- `part` placed under `folder`: a part that begins with the separator stands alone, and a folder
that does not end with one gains it. -/
def joinAt {α : Type} [DecidableEq α] (separator : α) (folder part : List α) : List α :=
  if part.head? = some separator then part
  else if folder = [] ∨ folder.getLast? = some separator then folder ++ part
  else folder ++ separator :: part

def slash : UInt8 := 0x2f

def dot : UInt8 := 0x2e

structure Path where
  bytes : Bytes
deriving DecidableEq, Repr

namespace Path

open Text

def ofString (s : String) : Path := ⟨Utf8.encode s⟩

def display (p : Path) : String := Utf8.lossy p.bytes

def join (folder part : Path) : Path := ⟨joinAt slash folder.bytes part.bytes⟩

def isAbsolute (p : Path) : Bool := p.bytes.head? == some slash

def endsWithSlash (p : Path) : Bool := p.bytes.getLast? == some slash

def parts (p : Path) : List Bytes := (p.bytes.splitOn slash).filter (!·.isEmpty)

/-- The last part that is not `.`, unless it is `..`. -/
def fileName? (p : Path) : Option Bytes :=
  match (p.parts.filter (· ≠ [dot])).getLast? with
  | some name => if name = [dot, dot] then none else some name
  | none => none

end Path

end TestMatrix
