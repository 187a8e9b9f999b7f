import TestMatrix.Proofs.FileTree.Naming
namespace TestMatrix

def Place.refill (target : Location) (content : Bytes) : Place → Place
  | .file l old => .file l (if l = target then content else old)
  | place => place

theorem Place.file?_refill (target : Location) (content : Bytes) (place : Place) :
    (place.refill target content).file? = place.file? := by
  cases place <;> rfl

namespace FileTree

variable {t t' : FileTree} {l target folder : Location} {e e' : Entry} {creating : Bool}

theorem eq_of_entries (h : t.entries = t'.entries) : t = t' := by
  cases t
  cases t'
  cases h
  rfl

theorem mem_locations (hl : l ≠ []) (h : t.entry? l = some e) : l ∈ t.entries.map Prod.fst :=
  List.mem_map.2 ⟨_, (entry?_eq_some_iff hl).1 h, rfl⟩

theorem entries_insert_old (h : l ∈ t.entries.map Prod.fst) :
    (t.insert l e).entries = t.entries.map fun p ↦ if p.1 = l then (l, e) else p := by
  rw [insert, dif_pos h]

theorem entries_insert_new (h : l ∉ t.entries.map Prod.fst) :
    (t.insert l e).entries = t.entries ++ [(l, e)] := by
  rw [insert, dif_neg h]

theorem locations_insert_old (h : l ∈ t.entries.map Prod.fst) :
    (t.insert l e).entries.map Prod.fst = t.entries.map Prod.fst := by
  rw [entries_insert_old h, List.map_map]
  refine List.map_congr_left fun p _ ↦ ?_
  simp only [Function.comp_apply]
  split
  · next hp => exact hp.symm
  · rfl

theorem names_eq_filterMap (t : FileTree) (folder : Location) : t.names folder =
    (t.entries.map Prod.fst).filterMap fun l ↦
      match l with
      | n :: parent => if parent = folder then some n else none
      | [] => none := by
  rw [List.filterMap_map]
  rfl

theorem names_insert_old (h : l ∈ t.entries.map Prod.fst) :
    (t.insert l e).names folder = t.names folder := by
  rw [names_eq_filterMap, names_eq_filterMap, locations_insert_old h]

theorem insert_insert (h : l ∈ t.entries.map Prod.fst) :
    (t.insert l e).insert l e' = t.insert l e' := by
  have again : l ∈ (t.insert l e).entries.map Prod.fst := by rwa [locations_insert_old h]
  refine eq_of_entries ?_
  rw [entries_insert_old again, entries_insert_old h, entries_insert_old h, List.map_map]
  refine List.map_congr_left fun p _ ↦ ?_
  by_cases hp : p.1 = l <;> simp [hp]

theorem insert_comm (hl : l ∈ t.entries.map Prod.fst) (apart : target ≠ l) :
    (t.insert l e).insert target e' = (t.insert target e').insert l e := by
  have kept : l ∈ (t.insert target e').entries.map Prod.fst := by
    by_cases ht : target ∈ t.entries.map Prod.fst
    · rwa [locations_insert_old ht]
    · rw [entries_insert_new ht, List.map_append]
      exact List.mem_append_left _ hl
  have swap (p : Location × Entry) :
      (if (if p.1 = l then (l, e) else p).1 = target then (target, e')
        else (if p.1 = l then (l, e) else p)) =
      if (if p.1 = target then (target, e') else p).1 = l then (l, e)
        else (if p.1 = target then (target, e') else p) := by
    by_cases hp : p.1 = l
    · have other : p.1 ≠ target := fun h ↦ apart (h ▸ hp)
      simp [hp, apart.symm]
    · by_cases hp' : p.1 = target <;> simp [hp, hp', apart]
  refine eq_of_entries ?_
  by_cases ht : target ∈ t.entries.map Prod.fst
  · have ht' : target ∈ (t.insert l e).entries.map Prod.fst := by rwa [locations_insert_old hl]
    rw [entries_insert_old ht', entries_insert_old hl, entries_insert_old kept,
      entries_insert_old ht, List.map_map, List.map_map]
    exact List.map_congr_left fun p _ ↦ swap p
  · have ht' : target ∉ (t.insert l e).entries.map Prod.fst := by rwa [locations_insert_old hl]
    rw [entries_insert_new ht', entries_insert_old hl, entries_insert_old kept,
      entries_insert_new ht, List.map_append]
    simp [apart]

/-- A walk finds the same place after a file has been given another content, and fails as it did. -/
theorem walkPlain_refill {before : Bytes} (h : t.entry? target = some (.file before))
    (ht : target ≠ []) (content : Bytes)
    {follow follow' : Location → Path → List Segment → Except SystemError Place}
    (hf : ∀ l p rest, follow' l p rest = (follow l p rest).map (Place.refill target content))
    (l : Location) (segments : List Segment) :
    (t.insert target (.file content)).walkPlain creating follow' l segments =
      (t.walkPlain creating follow l segments).map (Place.refill target content) := by
  induction segments generalizing l with
  | nil => rfl
  | cons s rest ih =>
    cases s with
    | here | close | up => exact ih _
    | name n =>
      simp only [walkPlain, entry?_insert ht]
      split
      · rfl
      split
      · rfl
      by_cases same : n :: l = target
      · subst same
        simp only [if_true, h]
        split
        · simp [Except.map, Place.refill]
        · rfl
      · rw [if_neg same]
        cases he : t.entry? (n :: l) with
        | none => dsimp only; split <;> rfl
        | some e =>
          cases e with
          | folder => exact ih _
          | file old =>
            dsimp only
            split
            · simp [Except.map, Place.refill, same]
            · rfl
          | link p => exact hf _ _ _

theorem walk_refill {before : Bytes} (h : t.entry? target = some (.file before))
    (ht : target ≠ []) (content : Bytes) (links : Nat) (l : Location) (segments : List Segment) :
    (t.insert target (.file content)).walk creating links l segments =
      (t.walk creating links l segments).map (Place.refill target content) := by
  induction links generalizing l segments with
  | zero =>
    have refused (_ : Location) (_ : Path) (_ : List Segment) :
        (.error .tooManyLinks : Except SystemError Place) =
          Except.map (Place.refill target content) (.error .tooManyLinks) := rfl
    exact walkPlain_refill h ht content refused l segments
  | succ links ih =>
    refine walkPlain_refill h ht content (fun l p rest ↦ ?_) l segments
    cases p.segments with
    | error e => rfl
    | ok between => exact ih _ _

end FileTree

namespace Workspace

variable {w : Workspace} {p : Path} {l target : Location} {before content : Bytes}
  {e : SystemError}

section Refill

variable (h : w.tree.entry? target = some (.file before)) (content : Bytes)
include h

theorem locate_refill (creating : Bool) (p : Path) :
    (w.put target content).locate creating p =
      (w.locate creating p).map (Place.refill target content) := by
  have writable := writable_of_entry h
  have start : (w.put target content).start p = w.start p := rfl
  have folder : (w.put target content).tree.entry? (w.start p) = some .folder ↔
      w.tree.entry? (w.start p) = some .folder := by
    rw [put, FileTree.entry?_insert writable.1]
    split
    · next same => simp [same, h]
    · rfl
  have walk (segments : List Segment) :
      (w.put target content).tree.walk creating FileTree.mostLinks (w.start p) segments =
        (w.tree.walk creating FileTree.mostLinks (w.start p) segments).map
          (Place.refill target content) :=
    FileTree.walk_refill h writable.1 content _ _ _
  rw [locate_eq, locate_eq, start]
  simp only [ne_eq, folder]
  split
  · rfl
  split
  · rfl
  split
  · rfl
  split
  · rfl
  cases p.segments with
  | error e => rfl
  | ok segments => exact walk segments

theorem list_refill (p : Path) : (w.put target content).list p = w.list p := by
  have listed := FileTree.mem_locations (writable_of_entry h).1 h
  rw [list, list, locate_refill h]
  cases w.locate false p with
  | error e => rfl
  | ok place =>
    cases place with
    | folder l => exact congrArg Except.ok (FileTree.names_insert_old listed)
    | file | free => rfl

theorem isFile_refill (p : Path) : (w.put target content).isFile p = w.isFile p := by
  rw [isFile, isFile, locate_refill h]
  cases w.locate false p with
  | error e => rfl
  | ok place => cases place <;> rfl

theorem read_refill (apart : ∀ old, w.locate false p ≠ .ok (.file target old)) :
    (w.put target content).read p = w.read p := by
  rw [read, read, locate_refill h]
  cases hp : w.locate false p with
  | error e => rfl
  | ok place =>
    cases place with
    | file l old =>
      have other : l ≠ target := fun same ↦ apart old (same ▸ hp)
      simp [Except.map, Place.refill, other, bind, Except.bind]
    | folder | free => rfl

theorem put_put (last : Bytes) : (w.put target content).put target last = w.put target last := by
  have listed := FileTree.mem_locations (writable_of_entry h).1 h
  simp only [put, FileTree.insert_insert listed]

theorem put_comm {new : Bytes} (apart : l ≠ target) :
    (w.put target content).put l new = (w.put l new).put target content := by
  have listed := FileTree.mem_locations (writable_of_entry h).1 h
  simp only [put, FileTree.insert_comm listed apart]

theorem write_error_refill {new : Bytes} {e : SystemError} (hw : w.write p new = .error e) :
    (w.put target content).write p new = .error e := by
  rw [write] at hw ⊢
  rw [locate_refill h]
  cases hp : w.locate true p with
  | error e' => rwa [hp] at hw
  | ok place =>
    rw [hp] at hw
    cases place with
    | folder => exact hw
    | file | free => cases hw

end Refill

inductive UpTo (log : Option Location) (w : Workspace) : Workspace → Prop
  | same : UpTo log w w
  | refilled {target : Location} {before : Bytes} (content : Bytes) : log = some target →
      w.tree.entry? target = some (.file before) → UpTo log w (w.put target content)

namespace UpTo

variable {log : Option Location} {w' w₁ : Workspace} {new : Bytes} (h : UpTo log w w')
include h

theorem entry?_eq (apart : log ≠ some l) : w'.tree.entry? l = w.tree.entry? l := by
  cases h with
  | same => rfl
  | refilled content hl here =>
    rw [put, FileTree.entry?_insert (writable_of_entry here).1, if_neg]
    exact fun same ↦ apart (same ▸ hl)

theorem list_eq (p : Path) : w'.list p = w.list p := by
  cases h with
  | same => rfl
  | refilled content _ here => exact list_refill here content p

theorem isFile_eq (p : Path) : w'.isFile p = w.isFile p := by
  cases h with
  | same => rfl
  | refilled content _ here => exact isFile_refill here content p

theorem read_eq (apart : ∀ target, log = some target → ¬w.Names p target) :
    w'.read p = w.read p := by
  cases h with
  | same => rfl
  | refilled content hl here =>
    exact read_refill here content fun _ located ↦ apart _ hl (names_of_locate located)

theorem write_error (hw : w.write p new = .error e) : w'.write p new = .error e := by
  cases h with
  | same => exact hw
  | refilled content _ here => exact write_error_refill here content hw

/-- A writing that goes through does so here too, and the files are again the same but for the
log. -/
theorem write_ok (hw : w.write p new = .ok w₁) :
    ∃ w₁', w'.write p new = .ok w₁' ∧ UpTo log w₁ w₁' := by
  cases h with
  | same => exact ⟨w₁, hw, .same⟩
  | @refilled target before content hl here =>
    obtain ⟨place, l, located, hp, rfl⟩ := write_eq_ok_iff.1 hw
    have writable := writable_of_locate located hp
    have written : (w.put target content).write p new = .ok ((w.put target content).put l new) := by
      refine write_eq_ok_iff.2 ⟨place.refill target content, l, ?_, ?_, rfl⟩
      · rw [locate_refill here, located]
        rfl
      · rw [Place.file?_refill, hp]
    refine ⟨_, written, ?_⟩
    by_cases same : l = target
    · subst same
      rw [put_put here]
      exact .same
    · rw [put_comm here content same]
      have kept : (w.put l new).tree.entry? target = some (.file before) := by
        rw [put, FileTree.entry?_insert writable.1, if_neg (Ne.symm same), here]
      exact .refilled content hl kept

theorem append (hl : log = some target) (line : Bytes) : UpTo log w (w'.append target line) := by
  cases h with
  | same =>
    rw [Workspace.append]
    split
    · next before here => exact .refilled _ hl here
    · exact .same
  | @refilled file before content hf here =>
    cases hl.symm.trans hf
    have now : (w.put target content).tree.entry? target = some (.file content) := by
      rw [put, FileTree.entry?_insert (writable_of_entry here).1, if_pos rfl]
    rw [append_eq_put now, put_put here]
    exact .refilled _ hl here

end UpTo

end Workspace

end TestMatrix
