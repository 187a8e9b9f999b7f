import TestMatrix.Path
namespace TestMatrix

def Name.Valid (bytes : Bytes) : Prop :=
  bytes ≠ [] ∧ bytes ≠ [dot] ∧ bytes ≠ [dot, dot] ∧ slash ∉ bytes ∧ 0 ∉ bytes

instance (bytes : Bytes) : Decidable (Name.Valid bytes) := by
  unfold Name.Valid
  infer_instance

structure Name where
  bytes : Bytes
  valid : Name.Valid bytes
deriving DecidableEq, Repr

def Name.ofBytes? (bytes : Bytes) : Option Name :=
  if h : Name.Valid bytes then some ⟨bytes, h⟩ else none

/-- The names on the way from an entry up to the root. -/
abbrev Location := List Name

/-- What a folder can hold. Sockets, devices and other special files are left out, and so are
permissions, hard links and all that can fail in reading a disk. -/
inductive Entry
  | folder
  | file (content : Bytes)
  | link (target : Path)
deriving DecidableEq, Repr

/-- Everything below the root, each entry at its own location. The order is that in which a folder
lists its entries. -/
structure FileTree where
  entries : List (Location × Entry) := []
  nodup : (entries.map Prod.fst).Nodup := by simp

namespace FileTree

def entry? (t : FileTree) (l : Location) : Option Entry :=
  if l = [] then some .folder else t.entries.lookup l

def names (t : FileTree) (folder : Location) : List Name :=
  t.entries.filterMap fun (l, _) ↦
    match l with
    | n :: parent => if parent = folder then some n else none
    | [] => none

def insert (t : FileTree) (l : Location) (e : Entry) : FileTree :=
  if h : l ∈ t.entries.map Prod.fst then
    { entries := t.entries.map fun p ↦ if p.1 = l then (l, e) else p
      nodup := by
        have : (t.entries.map fun p ↦ if p.1 = l then (l, e) else p).map Prod.fst =
            t.entries.map Prod.fst := by
          rw [List.map_map]
          refine List.map_congr_left fun p _ ↦ ?_
          simp only [Function.comp_apply]
          split
          · next hp => exact hp.symm
          · rfl
        rw [this]
        exact t.nodup }
  else
    { entries := t.entries ++ [(l, e)]
      nodup := by
        rw [List.map_append, List.nodup_append]
        refine ⟨t.nodup, by simp, ?_⟩
        rintro a ha b hb rfl
        simp only [List.map_cons, List.map_nil, List.mem_singleton] at hb
        exact h (hb ▸ ha) }

def remove (t : FileTree) (l : Location) : FileTree where
  entries := t.entries.filter fun p ↦ !l.isSuffixOf p.1
  nodup := (List.filter_sublist.map Prod.fst).nodup t.nodup

def addFolders (t : FileTree) : Location → FileTree
  | [] => t
  | n :: parent =>
    let t := t.addFolders parent
    if t.entry? (n :: parent) = none then t.insert (n :: parent) .folder else t

end FileTree

end TestMatrix
