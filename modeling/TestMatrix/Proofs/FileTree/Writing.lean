import TestMatrix.Proofs.FileTree.Places
namespace TestMatrix

def Place.file? : Place → Option Location
  | .folder _ => none
  | .file l _ => some l
  | .free l n => some (n :: l)

namespace FileTree

variable {t : FileTree} {k : Nat} {l target : Location} {segments : List Segment} {place : Place}

def Writable (t : FileTree) (l : Location) : Prop :=
  l ≠ [] ∧ (t.entry? l = none ∨ ∃ before, t.entry? l = some (.file before))

theorem Leads.entry_target (h : t.Leads true k l segments place)
    (ht : place.file? = some target) : t.Writable target := by
  induction h with
  | stay => cases ht
  | here _ ih | close _ ih | up _ ih | enter _ _ _ _ ih | follow _ _ _ _ _ ih => exact ih ht
  | free _ he => cases ht; exact ⟨List.cons_ne_nil _ _, .inl he⟩
  | file _ he => cases ht; exact ⟨List.cons_ne_nil _ _, .inr ⟨_, he⟩⟩

/-- Writing touches no folder and no link. -/
theorem Writable.kept {e : Entry} {l' : Location} (ht : t.Writable target)
    (he : t.entry? l' = some e) (hf : ∀ content, e ≠ .file content) (content : Bytes) :
    entry? (t.insert target (.file content)) l' = some e := by
  obtain ⟨hr, before⟩ := ht
  have away : l' ≠ target := by
    intro same
    subst same
    rcases before with hn | ⟨old, hc⟩
    · rw [he] at hn
      cases hn
    · rw [he] at hc
      exact hf old (Option.some.inj hc)
  rw [entry?_insert hr, if_neg away, he]

theorem Leads.entry_file {creating : Bool} {l' : Location} {content : Bytes}
    (h : t.Leads creating k l segments (.file l' content)) :
    t.entry? l' = some (.file content) := by
  generalize hp : Place.file l' content = place at h
  induction h with
  | stay | free => cases hp
  | here _ ih | close _ ih | up _ ih | enter _ _ _ _ ih | follow _ _ _ _ _ ih => exact ih hp
  | file _ he => cases hp; exact he

theorem Leads.insert (h : t.Leads true k l segments place) (ht : place.file? = some target)
    (content : Bytes) :
    (t.insert target (.file content)).Leads false k l segments (.file target content) := by
  have here : entry? (t.insert target (.file content)) target = some (.file content) := by
    rw [entry?_insert (h.entry_target ht).1, if_pos rfl]
  -- Each step of the old way finds the same folder or link again, and the last one the new file.
  have kept {l' : Location} {e : Entry} (he : t.entry? l' = some e)
      (hf : ∀ content, e ≠ .file content) := (h.entry_target ht).kept he hf content
  induction h with
  | stay => cases ht
  | here _ ih => exact .here (ih ht)
  | close _ ih => exact .close (ih ht)
  | up _ ih => exact .up (ih ht)
  | free hn _ => cases ht; exact .file hn here
  | file hn _ => cases ht; exact .file hn here
  | enter hn _ he _ ih => exact .enter hn (by simp) (kept he (by simp)) (ih ht)
  | follow hn _ he hs _ ih => exact .follow hn (by simp) (kept he (by simp)) hs (ih ht)

/-- A way to a file stays as it is when a file is written, be it that file or another one. -/
theorem Writable.leads_file {creating : Bool} {l' : Location} {old : Bytes}
    (ht : t.Writable target) (h : t.Leads creating k l segments (.file l' old)) (content : Bytes) :
    (t.insert target (.file content)).Leads creating k l segments
      (.file l' (if l' = target then content else old)) := by
  generalize hp : Place.file l' old = place at h
  induction h with
  | stay | free => cases hp
  | here _ ih => exact .here (ih hp)
  | close _ ih => exact .close (ih hp)
  | up _ ih => exact .up (ih hp)
  | file hn he =>
    cases hp
    refine .file hn ?_
    rw [entry?_insert ht.1]
    split
    · rfl
    · exact he
  | enter hn hc he _ ih => exact .enter hn hc (ht.kept he (by simp) content) (ih hp)
  | follow hn hc he hs _ ih => exact .follow hn hc (ht.kept he (by simp) content) hs (ih hp)

/-- What can be reached in order to write can be reached in order to read. -/
theorem Leads.of_creating (h : t.Leads true k l segments place) :
    t.Leads false k l segments place := by
  induction h with
  | stay => exact .stay _
  | here _ ih => exact .here ih
  | close _ ih => exact .close ih
  | up _ ih => exact .up ih
  | free hn he => exact .free hn he
  | file hn he => exact .file hn he
  | enter hn _ he _ ih => exact .enter hn (by simp) he ih
  | follow hn _ he hs _ ih => exact .follow hn (by simp) he hs ih

end FileTree

namespace Workspace

variable {w w' : Workspace} {k : Nat} {p : Path} {place : Place} {l : Location} {content : Bytes}

/-- One file has been given a new content, or has been made; all else is as it was. -/
structure Rewritten (w w' : Workspace) (l : Location) (content : Bytes) : Prop where
  home_eq : w'.home = w.home
  before : w.tree.entry? l = none ∨ ∃ old, w.tree.entry? l = some (.file old)
  after : w'.tree.entry? l = some (.file content)
  elsewhere : ∀ l', l' ≠ l → w'.tree.entry? l' = w.tree.entry? l'

namespace Rewritten

theorem folder_iff (h : w.Rewritten w' l content) (l' : Location) :
    w'.tree.entry? l' = some .folder ↔ w.tree.entry? l' = some .folder := by
  by_cases hl : l' = l
  · subst hl
    rcases h.before with hb | ⟨old, hb⟩ <;> simp [h.after, hb]
  · rw [h.elsewhere l' hl]

theorem link_iff (h : w.Rewritten w' l content) (l' : Location) (target : Path) :
    w'.tree.entry? l' = some (.link target) ↔ w.tree.entry? l' = some (.link target) := by
  by_cases hl : l' = l
  · subst hl
    rcases h.before with hb | ⟨old, hb⟩ <;> simp [h.after, hb]
  · rw [h.elsewhere l' hl]

end Rewritten

theorem write_eq_ok_iff : w.write p content = .ok w' ↔
    ∃ place l, w.locate true p = .ok place ∧ place.file? = some l ∧ w' = w.put l content := by
  rw [write]
  cases hp : w.locate true p with
  | error e => simp [bind, Except.bind]
  | ok place => cases place <;> simp [bind, Except.bind, pure, Except.pure, Place.file?, eq_comm]

theorem Leads.put (h : w.Leads true k p place) (hl : place.file? = some l) (content : Bytes) :
    (w.put l content).Leads false k p (.file l content) := by
  obtain ⟨usable, hf, segments, hs, way⟩ := h
  have start : (w.put l content).start p = w.start p := rfl
  refine ⟨usable, ?_, segments, hs, ?_⟩
  · rw [start]
    exact (way.entry_target hl).kept hf (by simp) content
  · rw [start]
    exact way.insert hl content

theorem writable_of_locate (h : w.locate true p = .ok place) (hl : place.file? = some l) :
    w.tree.Writable l := by
  obtain ⟨k, -, -, -, segments, -, way⟩ := locate_eq_ok_iff.1 h
  exact way.entry_target hl

/-- A path to a file still leads to it when a file is written. -/
theorem locate_put {creating : Bool} {l' : Location} {old : Bytes} (hl : w.tree.Writable l)
    (h : w.locate creating p = .ok (.file l' old)) (content : Bytes) :
    (w.put l content).locate creating p =
      .ok (.file l' (if l' = l then content else old)) := by
  obtain ⟨k, hk, usable, hf, segments, hs, way⟩ := locate_eq_ok_iff.1 h
  have start : (w.put l content).start p = w.start p := rfl
  refine locate_eq_ok_iff.2 ⟨k, hk, usable, ?_, segments, hs, ?_⟩
  · rw [start]
    exact hl.kept hf (by simp) content
  · rw [start]
    exact hl.leads_file way content

theorem entry_of_locate {creating : Bool} (h : w.locate creating p = .ok (.file l content)) :
    w.tree.entry? l = some (.file content) := by
  obtain ⟨k, -, -, -, segments, -, way⟩ := locate_eq_ok_iff.1 h
  exact way.entry_file

theorem locate_of_openFile (h : w.openFile p = .ok (l, w')) :
    ∃ content, w'.locate false p = .ok (.file l content) := by
  rw [openFile] at h
  obtain ⟨place, hp, h⟩ := ok_of_bind h
  obtain ⟨k, hk, way⟩ := locate_eq_ok_iff.1 hp
  cases place with
  | folder => cases h
  | file l content =>
    cases h
    obtain ⟨usable, hf, segments, hs, way⟩ := way
    exact ⟨content, locate_eq_ok_iff.2 ⟨k, hk, usable, hf, segments, hs, way.of_creating⟩⟩
  | free folder n =>
    cases h
    exact ⟨[], locate_eq_ok_iff.2 ⟨k, hk, way.put rfl []⟩⟩

theorem entry?_openFile {l' : Location} (h : w.openFile p = .ok (l, w')) (away : l ≠ l') :
    w'.tree.entry? l' = w.tree.entry? l' := by
  rw [openFile] at h
  obtain ⟨place, hp, h⟩ := ok_of_bind h
  cases place with
  | folder => cases h
  | file =>
    cases h
    rfl
  | free =>
    cases h
    rw [put, FileTree.entry?_insert (List.cons_ne_nil _ _), if_neg (Ne.symm away)]

theorem append_eq_put {before : Bytes} (h : w.tree.entry? l = some (.file before))
    (content : Bytes) : w.append l content = w.put l (before ++ content) := by
  rw [append, h]

theorem writable_of_entry {before : Bytes} (h : w.tree.entry? l = some (.file before)) :
    w.tree.Writable l := by
  refine ⟨fun root ↦ ?_, .inr ⟨before, h⟩⟩
  rw [root, FileTree.entry?_root] at h
  cases h

theorem read_eq_ok_iff : w.read p = .ok content ↔
    ∃ l, w.locate false p = .ok (.file l content) := by
  rw [read]
  cases hp : w.locate false p with
  | error e => simp [bind, Except.bind]
  | ok place => cases place <;> simp [bind, Except.bind, pure, Except.pure]

/-- Opening a file keeps what it holds. One that is not there yet is made empty. -/
theorem read_of_openFile (h : w.openFile p = .ok (l, w')) :
    ∃ before, w'.locate false p = .ok (.file l before) ∧
      (w.read p = .ok before ∨ w.read p = .error .notFound ∧ before = []) := by
  obtain ⟨before, located⟩ := locate_of_openFile h
  refine ⟨before, located, ?_⟩
  rw [openFile] at h
  obtain ⟨place, hp, h⟩ := ok_of_bind h
  cases place with
  | folder => cases h
  | file l content =>
    cases h
    exact .inl (read_eq_ok_iff.2 ⟨l, located⟩)
  | free folder n =>
    cases h
    obtain ⟨k, hk, usable, hf, segments, hs, way⟩ := locate_eq_ok_iff.1 hp
    have free := locate_eq_ok_iff.2 ⟨k, hk, usable, hf, segments, hs, way.of_creating⟩
    have made := entry_of_locate located
    rw [put, FileTree.entry?_insert (List.cons_ne_nil n folder), if_pos rfl] at made
    cases made
    refine .inr ⟨?_, rfl⟩
    rw [read, free]
    rfl

/-- What was written is read back from the same path, and nothing else has changed. -/
theorem write_spec (h : w.write p content = .ok w') :
    w'.read p = .ok content ∧ ∃ place l, w.locate true p = .ok place ∧ place.file? = some l ∧
      w'.locate false p = .ok (.file l content) ∧ w.Rewritten w' l content := by
  obtain ⟨place, l, hp, hl, rfl⟩ := write_eq_ok_iff.1 h
  obtain ⟨k, hk, way⟩ := locate_eq_ok_iff.1 hp
  have back := locate_eq_ok_iff.2 ⟨k, hk, way.put hl content⟩
  obtain ⟨segments, -, steps⟩ := way.way
  obtain ⟨hr, before⟩ := steps.entry_target hl
  refine ⟨read_eq_ok_iff.2 ⟨l, back⟩, place, l, hp, hl, back, rfl, before, ?_, fun l' hl' ↦ ?_⟩
  · rw [put, FileTree.entry?_insert hr, if_pos rfl]
  · rw [put, FileTree.entry?_insert hr, if_neg hl']

end Workspace

end TestMatrix
