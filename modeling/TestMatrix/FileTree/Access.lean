import TestMatrix.FileTree.Walk
namespace TestMatrix.Workspace

def read (w : Workspace) (p : Path) : Except SystemError Bytes := do
  match ← w.locate false p with
  | .file _ content => return content
  | .folder _ => throw .isFolder
  | .free .. => throw .notFound

def list (w : Workspace) (p : Path) : Except SystemError (List Name) := do
  match ← w.locate false p with
  | .folder l => return w.tree.names l
  | .file .. => throw .notFolder
  | .free .. => throw .notFound

/-- What listing a folder answers, entry by entry. In a tree none of them fails by itself. -/
def entries (w : Workspace) (p : Path) : Except SystemError (List (Except SystemError Name)) :=
  (w.list p).map (·.map .ok)

theorem entries_congr {w w' : Workspace} {p : Path} (h : w'.list p = w.list p) :
    w'.entries p = w.entries p := by
  rw [entries, entries, h]

def isFile (w : Workspace) (p : Path) : Bool :=
  match w.locate false p with
  | .ok (.file ..) => true
  | _ => false

def put (w : Workspace) (l : Location) (content : Bytes) : Workspace :=
  { w with tree := w.tree.insert l (.file content) }

def write (w : Workspace) (p : Path) (content : Bytes) : Except SystemError Workspace := do
  match ← w.locate true p with
  | .file l _ => return w.put l content
  | .free folder name => return w.put (name :: folder) content
  | .folder _ => throw .isFolder

def openFile (w : Workspace) (p : Path) : Except SystemError (Location × Workspace) := do
  match ← w.locate true p with
  | .file l _ => return (l, w)
  | .free folder name => return (name :: folder, w.put (name :: folder) [])
  | .folder _ => throw .isFolder

def append (w : Workspace) (l : Location) (content : Bytes) : Workspace :=
  match w.tree.entry? l with
  | some (.file before) => w.put l (before ++ content)
  | _ => w

end TestMatrix.Workspace
