import TestMatrix.Json.Value
import TestMatrix.Manifest.Basic
namespace TestMatrix

open Json

def namedMembers? (members : List (List Piece × Value)) : Option (List (String × Value)) :=
  members.mapM fun (key, value) ↦ (Piece.text? key).map fun k ↦ (String.ofList k, value)

def onlyMember? (members : List (String × Value)) (name : String) : Option Value :=
  match members.filter (·.1 = name) with
  | [(_, value)] => some value
  | _ => none

def textOf? : Value → Option String
  | .string pieces => (Piece.text? pieces).map String.ofList
  | _ => none

/-- A record is an object with its three members, or an array of their values. -/
def Record.ofValue? : Value → Option Record
  | .object members => do
    let members ← namedMembers? members
    let name ← onlyMember? members "name"
    let testName ← onlyMember? members "test_name"
    let path ← onlyMember? members "path"
    return ⟨← textOf? name, ← textOf? testName, ← textOf? path⟩
  | .array [name, testName, path] =>
    return ⟨← textOf? name, ← textOf? testName, ← textOf? path⟩
  | _ => none

def recordsOf? : Value → Option (List Record)
  | .array items => items.mapM Record.ofValue?
  | _ => none

def Manifest.ofValue? : Value → Option Manifest
  | .object members => do
    let records ← onlyMember? (← namedMembers? members) "include"
    return ⟨← recordsOf? records⟩
  | .array [records] => return ⟨← recordsOf? records⟩
  | _ => none

def Manifest.ofText? (s : String) : Option Manifest := do ofValue? (← Value.ofText? s)

end TestMatrix
