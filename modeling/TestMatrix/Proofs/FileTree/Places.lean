import TestMatrix.FileTree.Access
import TestMatrix.Proofs.FileTree.Entries
import TestMatrix.Proofs.FileTree.Resolution
import TestMatrix.Proofs.Path.Parts
namespace TestMatrix

structure Path.Usable (p : Path) : Prop where
  no_zero : 0 ∉ p.bytes
  short : p.bytes.length ≤ FileTree.longestPath
  ne_nil : p.bytes ≠ []

namespace Workspace

variable {w w' : Workspace} {creating : Bool} {k k' : Nat} {p : Path} {place : Place}

def start (w : Workspace) (p : Path) : Location := if p.isAbsolute then [] else w.home

/-- The path leads to a place, and `k` links are followed on the way. -/
structure Leads (w : Workspace) (creating : Bool) (k : Nat) (p : Path) (place : Place) : Prop where
  usable : p.Usable
  start_folder : w.tree.entry? (w.start p) = some .folder
  way : ∃ segments, p.segments = .ok segments ∧
    w.tree.Leads creating k (w.start p) segments place

theorem locate_eq (w : Workspace) (creating : Bool) (p : Path) : w.locate creating p =
    if 0 ∈ p.bytes then .error .zeroByte
    else if FileTree.longestPath < p.bytes.length then .error .nameTooLong
    else if p.bytes = [] then .error .notFound
    else if w.tree.entry? (w.start p) ≠ some .folder then .error .notFound
    else p.segments.bind fun segments ↦
      w.tree.walk creating FileTree.mostLinks (w.start p) segments := by
  by_cases hz : 0 ∈ p.bytes
  · simp only [locate, hz, if_true]; rfl
  by_cases hs : FileTree.longestPath < p.bytes.length
  · simp only [locate, hz, hs, if_true, if_false]; rfl
  by_cases hn : p.bytes = []
  · simp only [locate, hn, if_true]; rfl
  by_cases hf : w.tree.entry? (w.start p) ≠ some .folder
  · have hf' := hf
    simp only [start] at hf'
    simp only [locate, hz, hs, hn, if_false, if_pos hf, if_pos hf']; rfl
  · have hf' := hf
    simp only [start] at hf'
    simp only [locate, hz, hs, hn, if_false, if_neg hf, if_neg hf']; rfl

theorem locate_congr (hh : w.home = w'.home) (h : ∀ l, w.tree.entry? l = w'.tree.entry? l) :
    w.locate creating p = w'.locate creating p := by
  rw [locate_eq, locate_eq, FileTree.walk_congr h, h, start, start, hh]

theorem locate_eq_ok_iff :
    w.locate creating p = .ok place ↔ ∃ k ≤ FileTree.mostLinks, w.Leads creating k p place := by
  rw [locate_eq]
  constructor
  · intro h
    split at h
    · cases h
    next hz =>
    split at h
    · cases h
    next hs =>
    split at h
    · cases h
    next hn =>
    split at h
    · cases h
    next hf =>
    obtain ⟨segments, he, h⟩ := ok_of_bind h
    obtain ⟨k, hk, hl⟩ := FileTree.walk_eq_ok_iff.1 h
    exact ⟨k, hk, ⟨hz, Nat.not_lt.1 hs, hn⟩, Decidable.not_not.1 hf, segments, he, hl⟩
  · rintro ⟨k, hk, ⟨hz, hs, hn⟩, hf, segments, he, hl⟩
    rw [if_neg hz, if_neg (Nat.not_lt.2 hs), if_neg hn, if_neg (not_not_intro hf), he]
    exact FileTree.walk_eq_ok_iff.2 ⟨k, hk, hl⟩

theorem Leads.unique {place' : Place} (h : w.Leads creating k p place)
    (h' : w.Leads creating k' p place') : k = k' ∧ place = place' := by
  obtain ⟨segments, hs, hl⟩ := h.way
  obtain ⟨segments', hs', hl'⟩ := h'.way
  cases hs.symm.trans hs'
  exact hl.unique hl'

theorem start_join_name {n : Name} (h : p.bytes ≠ []) : w.start (p.join n.path) = w.start p := by
  obtain ⟨front, -, hb, hf⟩ := p.join_name n
  obtain ⟨b, rest, hp⟩ := List.exists_cons_of_ne_nil h
  have head : (p.join n.path).bytes.head? = p.bytes.head? := by
    rw [hb]
    rcases hf with rfl | ⟨-, rfl⟩ <;> rw [hp] <;> rfl
  rw [start, start, Path.isAbsolute, Path.isAbsolute, head]

theorem zero_not_mem_join_name {n : Name} (h : 0 ∉ p.bytes) : 0 ∉ (p.join n.path).bytes := by
  obtain ⟨front, -, hb, hf⟩ := p.join_name n
  have hn : 0 ∉ n.bytes := n.valid.2.2.2.2
  rcases hf with rfl | ⟨-, rfl⟩
  · simp [hb, h, hn]
  · simp [hb, h, hn, slash]

/-- The way to an entry is the way to its folder and one step more. -/
theorem leads_join_name_iff {l : Location} {n : Name} (h : w.Leads false k p (.folder l)) :
    w.Leads false k' (p.join n.path) place ↔
      (p.join n.path).bytes.length ≤ FileTree.longestPath ∧
        ∃ k₂, k' = k + k₂ ∧ w.tree.Leads false k₂ l [.name n] place := by
  obtain ⟨⟨hz, -, hn⟩, hf, segments, hs, hl⟩ := h
  obtain ⟨front, hj, hfront⟩ := p.segments_join_name n hs
  have to_folder : w.tree.Leads false k (w.start p) front (.folder l) := by
    rcases hfront with rfl | rfl
    · exact hl
    · exact hl.of_close
  constructor
  · rintro ⟨usable, -, segments', hs', hl'⟩
    cases hj.symm.trans hs'
    rw [start_join_name hn] at hl'
    exact ⟨usable.short, to_folder.of_append hl'⟩
  · rintro ⟨short, k₂, rfl, hl'⟩
    have ne_nil : (p.join n.path).bytes ≠ [] := by
      obtain ⟨front, -, hb, -⟩ := p.join_name n
      rw [hb]
      exact List.append_ne_nil_of_right_ne_nil _ n.valid.1
    refine ⟨⟨zero_not_mem_join_name hz, short, ne_nil⟩, ?_, _, hj, ?_⟩
    · rwa [start_join_name hn]
    · rw [start_join_name hn]
      exact to_folder.append hl'

theorem isFile_iff : w.isFile p ↔ ∃ l content, w.locate false p = .ok (.file l content) := by
  unfold isFile
  split
  · next l content h => simp [h]
  · next h =>
    constructor
    · intro h'
      cases h'
    · rintro ⟨l, content, h'⟩
      exact (h l content h').elim

/-- An entry counts as a file if it is one or if a chain of links goes from it to one, and neither
the path nor the whole chain is too long. -/
theorem isFile_join_name_iff {l : Location} {n : Name} (h : w.Leads false k p (.folder l)) :
    w.isFile (p.join n.path) ↔ (p.join n.path).bytes.length ≤ FileTree.longestPath ∧
      ∃ k', k + k' ≤ FileTree.mostLinks ∧
        ∃ l' content, w.tree.Leads false k' l [.name n] (.file l' content) := by
  simp only [isFile_iff, locate_eq_ok_iff, leads_join_name_iff h]
  constructor
  · rintro ⟨l', content, _, hk, short, k', rfl, hl⟩
    exact ⟨short, k', hk, l', content, hl⟩
  · rintro ⟨short, k', hk, l', content, hl⟩
    exact ⟨l', content, _, hk, short, k', rfl, hl⟩

theorem list_eq_ok_iff {names : List Name} : w.list p = .ok names ↔
    ∃ l, w.locate false p = .ok (.folder l) ∧ w.tree.names l = names := by
  rw [list]
  cases hp : w.locate false p with
  | error e => simp [bind, Except.bind]
  | ok place => cases place <;> simp [bind, Except.bind, pure, Except.pure]

theorem list_eq_error (h : ∀ l, w.locate false p ≠ .ok (.folder l)) :
    ∃ e, w.list p = .error e := by
  cases hl : w.list p with
  | error e => exact ⟨e, rfl⟩
  | ok names =>
    obtain ⟨l, hp, -⟩ := list_eq_ok_iff.1 hl
    exact absurd hp (h l)

theorem nodup_of_list {names : List Name} (h : w.list p = .ok names) : names.Nodup := by
  obtain ⟨l, -, rfl⟩ := list_eq_ok_iff.1 h
  exact FileTree.nodup_names

structure Reordered (w w' : Workspace) : Prop where
  home_eq : w.home = w'.home
  perm : w.tree.entries.Perm w'.tree.entries

namespace Reordered

theorem locate_eq (h : w.Reordered w') : w.locate creating p = w'.locate creating p :=
  locate_congr h.home_eq fun _ ↦ FileTree.entry?_perm h.perm

theorem isFile_eq (h : w.Reordered w') : w.isFile p = w'.isFile p := by
  rw [isFile, isFile, h.locate_eq]

/-- A folder lists the same names in another order, and where listing fails the order is no help. -/
theorem list_perm (h : w.Reordered w') :
    (∃ names names', w.list p = .ok names ∧ w'.list p = .ok names' ∧ names.Perm names') ∨
      ∃ e, w.list p = .error e ∧ w'.list p = .error e := by
  have same : w.locate false p = w'.locate false p := h.locate_eq
  cases hp : w.locate false p with
  | error e => exact .inr ⟨e, by rw [list, hp]; rfl, by rw [list, ← same, hp]; rfl⟩
  | ok place =>
    cases place with
    | folder l =>
      have listed := list_eq_ok_iff.2 ⟨l, hp, rfl⟩
      have listed' := list_eq_ok_iff.2 ⟨l, same ▸ hp, rfl⟩
      exact .inl ⟨_, _, listed, listed', FileTree.names_perm h.perm⟩
    | file | free => exact .inr ⟨_, by rw [list, hp]; rfl, by rw [list, ← same, hp]; rfl⟩

end Reordered

end Workspace

end TestMatrix
