import TestMatrix.Proofs.FileTree.Writing
namespace TestMatrix

namespace FileTree

variable {t t' : FileTree} {creating : Bool} {k : Nat} {l target : Location}
  {segments : List Segment} {place : Place}

/-- The same folders and the same links. What files there are, and what they hold, may differ. -/
def SameShape (t t' : FileTree) : Prop :=
  ∀ l e, (∀ content, e ≠ .file content) → (t.entry? l = some e ↔ t'.entry? l = some e)

namespace SameShape

theorem symm (h : t.SameShape t') : t'.SameShape t := fun l e he ↦ (h l e he).symm

theorem folder_iff (h : t.SameShape t') (l : Location) :
    t.entry? l = some .folder ↔ t'.entry? l = some .folder :=
  h l _ fun _ ↦ by simp

theorem link_iff (h : t.SameShape t') (l : Location) (p : Path) :
    t.entry? l = some (.link p) ↔ t'.entry? l = some (.link p) :=
  h l _ fun _ ↦ by simp

theorem insert {content : Bytes} (ht : t.Writable target) :
    t.SameShape (t.insert target (.file content)) := by
  intro l e he
  refine ⟨fun h ↦ ht.kept h he content, fun h ↦ ?_⟩
  rw [entry?_insert ht.1] at h
  split at h
  · exact absurd (Option.some.inj h).symm (he content)
  · exact h

/-- Where the last name of a path leads to a file or to nothing, it does so in the other tree too. -/
theorem last (same : t.SameShape t') {n : Name} (hn : n.bytes.length ≤ longestName)
    (he : ∀ e, t.entry? (n :: l) = some e → ∃ content, e = .file content) :
    ∃ place, t'.Leads creating 0 l [.name n] place ∧ place.file? = some (n :: l) := by
  cases h : t'.entry? (n :: l) with
  | none => exact ⟨_, .free hn h, rfl⟩
  | some e =>
    cases e with
    | file content => exact ⟨_, .file hn h, rfl⟩
    | folder =>
      obtain ⟨_, h⟩ := he _ ((same.folder_iff _).2 h)
      cases h
    | link p =>
      obtain ⟨_, h⟩ := he _ ((same.link_iff _ _).2 h)
      cases h

/-- The way to a place depends on folders and links alone: it leads to the same folder, or to the
same location for a file. -/
theorem leads (same : t.SameShape t') (h : t.Leads creating k l segments place) :
    ∃ place', t'.Leads creating k l segments place' ∧ place'.file? = place.file? ∧
      (place.file? = none → place' = place) := by
  induction h with
  | stay l => exact ⟨_, .stay l, rfl, fun _ ↦ rfl⟩
  | here _ ih =>
    obtain ⟨place', way, hp⟩ := ih
    exact ⟨place', .here way, hp⟩
  | close _ ih =>
    obtain ⟨place', way, hp⟩ := ih
    exact ⟨place', .close way, hp⟩
  | up _ ih =>
    obtain ⟨place', way, hp⟩ := ih
    exact ⟨place', .up way, hp⟩
  | free hn he =>
    obtain ⟨place', way, hp⟩ := same.last hn fun e h ↦ by cases he.symm.trans h
    exact ⟨place', way, hp, fun h ↦ by cases h⟩
  | file hn he =>
    obtain ⟨place', way, hp⟩ := same.last hn fun e h ↦ ⟨_, Option.some.inj (h.symm.trans he)⟩
    exact ⟨place', way, hp, fun h ↦ by cases h⟩
  | enter hn hc he _ ih =>
    obtain ⟨place', way, hp⟩ := ih
    exact ⟨place', .enter hn hc ((same.folder_iff _).1 he) way, hp⟩
  | follow hn hc he hs _ ih =>
    obtain ⟨place', way, hp⟩ := ih
    exact ⟨place', .follow hn hc ((same.link_iff _ _).1 he) hs way, hp⟩

end SameShape

theorem Leads.file?_of_close (h : t.Leads creating k l (segments ++ [.close]) place) :
    place.file? = none := by
  generalize hs : segments ++ [.close] = all at h
  induction h generalizing segments with
  | stay => rfl
  | free | file => cases segments <;> simp at hs
  | here _ ih | up _ ih | enter _ _ _ _ ih =>
    cases segments with
    | nil => cases hs
    | cons s segments => cases hs; exact ih rfl
  | close h ih =>
    cases segments with
    | nil => cases hs; cases h; rfl
    | cons s segments => cases hs; exact ih rfl
  | follow _ _ _ _ _ ih =>
    cases segments with
    | nil => cases hs
    | cons s segments => cases hs; exact ih (List.append_assoc ..)

/-- What can be reached as a file can be written. -/
theorem Leads.to_creating (h : t.Leads false k l segments place) (hp : place.file? = some target) :
    t.Leads true k l segments place := by
  induction h with
  | stay => cases hp
  | here _ ih => exact .here (ih hp)
  | close _ ih => exact .close (ih hp)
  | up _ ih => exact .up (ih hp)
  | free hn he => exact .free hn he
  | file hn he => exact .file hn he
  | enter hn _ he way ih =>
    refine .enter hn (fun h ↦ ?_) he (ih hp)
    obtain ⟨-, rfl⟩ := h
    cases way with
    | close way => cases way; cases hp
  | follow hn _ he hs way ih =>
    refine .follow hn (fun h ↦ ?_) he hs (ih hp)
    obtain ⟨-, rfl⟩ := h
    have folder := Leads.file?_of_close way
    rw [hp] at folder
    cases folder

end FileTree

namespace Workspace

variable {w w' : Workspace} {creating : Bool} {p q : Path} {l target : Location} {place : Place}
  {content : Bytes}

/-- The path leads to the file at `l`, or to `l` as a place where a file can be made. -/
def Names (w : Workspace) (p : Path) (l : Location) : Prop :=
  ∃ place, w.locate true p = .ok place ∧ place.file? = some l

def SameFile (w : Workspace) (p q : Path) : Prop := ∃ l, w.Names p l ∧ w.Names q l

theorem Names.unique (h : w.Names p l) (h' : w.Names p target) : l = target := by
  obtain ⟨place, located, hl⟩ := h
  obtain ⟨place', located', ht⟩ := h'
  cases located.symm.trans located'
  exact Option.some.inj (hl.symm.trans ht)

theorem names_of_locate (h : w.locate creating p = .ok (.file l content)) : w.Names p l := by
  obtain ⟨k, hk, usable, hf, segments, hs, way⟩ := locate_eq_ok_iff.1 h
  have creates : w.tree.Leads true k (w.start p) segments (.file l content) := by
    cases creating with
    | true => exact way
    | false => exact way.to_creating rfl
  exact ⟨_, locate_eq_ok_iff.2 ⟨k, hk, usable, hf, segments, hs, creates⟩, rfl⟩

theorem locate_sameShape (same : w.tree.SameShape w'.tree) (hh : w'.home = w.home)
    (h : w.locate creating p = .ok place) : ∃ place', w'.locate creating p = .ok place' ∧
      place'.file? = place.file? ∧ (place.file? = none → place' = place) := by
  obtain ⟨k, hk, usable, hf, segments, hs, way⟩ := locate_eq_ok_iff.1 h
  have start : w'.start p = w.start p := by rw [Workspace.start, Workspace.start, hh]
  obtain ⟨place', way', hp⟩ := same.leads way
  refine ⟨place', locate_eq_ok_iff.2 ⟨k, hk, usable, ?_, segments, hs, ?_⟩, hp⟩
  · rw [start]
    exact (same.folder_iff _).1 hf
  · rw [start]
    exact way'

theorem Names.of_sameShape (same : w.tree.SameShape w'.tree) (hh : w'.home = w.home)
    (h : w.Names p l) : w'.Names p l := by
  obtain ⟨place, located, hl⟩ := h
  obtain ⟨place', located', hp, -⟩ := locate_sameShape same hh located
  exact ⟨place', located', hp.trans hl⟩

theorem names_put_iff (ht : w.tree.Writable target) (content : Bytes) :
    (w.put target content).Names p l ↔ w.Names p l := by
  have same : w.tree.SameShape (w.put target content).tree := .insert ht
  exact ⟨Names.of_sameShape same.symm rfl, Names.of_sameShape same rfl⟩

/-- Opening a file takes the one that the path names, and changes nothing about what paths name. -/
theorem names_openFile (h : w.openFile p = .ok (l, w')) :
    w.Names p l ∧ ∀ q target, w'.Names q target ↔ w.Names q target := by
  rw [openFile] at h
  obtain ⟨place, located, h⟩ := ok_of_bind h
  cases place with
  | folder => cases h
  | file => cases h; exact ⟨⟨_, located, rfl⟩, fun _ _ ↦ .rfl⟩
  | free =>
    cases h
    have writable := writable_of_locate located rfl
    exact ⟨⟨_, located, rfl⟩, fun _ _ ↦ names_put_iff writable []⟩

end Workspace

end TestMatrix
