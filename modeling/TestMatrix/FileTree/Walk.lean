import TestMatrix.FileTree.Basic
import TestMatrix.SystemError
namespace TestMatrix

/-- One part of a path; `close` stands for a slash at its end. -/
inductive Segment
  | here
  | up
  | name (n : Name)
  | close
deriving DecidableEq, Repr

namespace Segment

def ofBytes (part : Bytes) : Except SystemError Segment :=
  if part = [dot] then .ok here
  else if part = [dot, dot] then .ok up
  else
    match Name.ofBytes? part with
    | some n => .ok (name n)
    | none => .error .zeroByte

end Segment

def Path.segments (p : Path) : Except SystemError (List Segment) := do
  let parts ← p.parts.mapM Segment.ofBytes
  return if p.endsWithSlash then parts ++ [.close] else parts

inductive Place
  | folder (l : Location)
  | file (l : Location) (content : Bytes)
  | free (folder : Location) (name : Name)
deriving DecidableEq, Repr

namespace FileTree

def longestName : Nat := 255

def mostLinks : Nat := 40

def longestPath : Nat := 4095

/-- Walks from a folder up to the first link, where `follow` goes on. A file that may be created is
asked for by a name with no slash after it. -/
def walkPlain (t : FileTree) (creating : Bool)
    (follow : Location → Path → List Segment → Except SystemError Place) :
    Location → List Segment → Except SystemError Place
  | l, [] => .ok (.folder l)
  | l, .here :: rest => t.walkPlain creating follow l rest
  | l, .close :: rest => t.walkPlain creating follow l rest
  | l, .up :: rest => t.walkPlain creating follow l.tail rest
  | l, .name n :: rest =>
    if creating ∧ rest = [.close] then .error .isFolder
    else if longestName < n.bytes.length then .error .nameTooLong
    else
      match t.entry? (n :: l) with
      | none => if rest = [] then .ok (.free l n) else .error .notFound
      | some .folder => t.walkPlain creating follow (n :: l) rest
      | some (.file content) =>
        if rest = [] then .ok (.file (n :: l) content) else .error .notFolder
      | some (.link target) => follow l target rest

/-- Walks and follows at most `links` links, wherever they stand. -/
def walk (t : FileTree) (creating : Bool) (links : Nat) :
    Location → List Segment → Except SystemError Place :=
  match links with
  | 0 => t.walkPlain creating fun _ _ _ ↦ .error .tooManyLinks
  | links + 1 =>
    t.walkPlain creating fun l target rest ↦ do
      let segments ← target.segments
      t.walk creating links (if target.isAbsolute then [] else l) (segments ++ rest)

end FileTree

/-- A file tree and the folder that relative paths start from. -/
structure Workspace where
  tree : FileTree := {}
  home : Location := []

namespace Workspace

def locate (w : Workspace) (creating : Bool) (p : Path) : Except SystemError Place := do
  if 0 ∈ p.bytes then throw .zeroByte
  if FileTree.longestPath < p.bytes.length then throw .nameTooLong
  if p.bytes = [] then throw .notFound
  let start := if p.isAbsolute then [] else w.home
  if w.tree.entry? start ≠ some .folder then throw .notFound
  w.tree.walk creating FileTree.mostLinks start (← p.segments)

end Workspace

end TestMatrix
