import TestMatrix.FileTree.Basic
namespace TestMatrix

/-- The place right under the root that a text names, or the root if the text is no name. -/
def Location.ofText (text : String) : Location :=
  (Name.ofBytes? (Text.Utf8.encode text)).toList

namespace FileTree

variable {t t' : FileTree} {l l' folder : Location} {e e' : Entry}

theorem lookup_eq_some_iff_mem {entries : List (Location × Entry)}
    (hn : (entries.map Prod.fst).Nodup) : entries.lookup l = some e ↔ (l, e) ∈ entries := by
  induction entries with
  | nil => simp
  | cons p entries ih =>
    obtain ⟨key, value⟩ := p
    obtain ⟨hp, hn⟩ := List.nodup_cons.1 hn
    rw [List.lookup_cons, List.mem_cons, Prod.mk.injEq]
    by_cases h : l = key
    · subst h
      have away : (l, e) ∉ entries := fun hm ↦ hp (List.mem_map.2 ⟨_, hm, rfl⟩)
      simp [away, eq_comm]
    · have differ : (l == key) = false := beq_eq_false_iff_ne.2 h
      simp [differ, h, ih hn]

theorem entry?_root : t.entry? [] = some .folder := rfl

theorem entry?_eq_some_iff (hl : l ≠ []) : t.entry? l = some e ↔ (l, e) ∈ t.entries := by
  unfold entry?
  rw [if_neg hl, lookup_eq_some_iff_mem t.nodup]

theorem mem_entries_insert :
    (l', e') ∈ (t.insert l e).entries ↔ if l' = l then e' = e else (l', e') ∈ t.entries := by
  unfold insert
  split
  · next h =>
    obtain ⟨p, hp, hl⟩ := List.mem_map.1 h
    rw [List.mem_map]
    constructor
    · rintro ⟨q, hq, he⟩
      split at he
      · cases he; rw [if_pos rfl]
      · next hne => subst he; rwa [if_neg hne]
    · split
      · next h' => rintro rfl; exact ⟨p, hp, by rw [if_pos hl, h']⟩
      · next h' => exact fun hm ↦ ⟨_, hm, if_neg h'⟩
  · next h =>
    rw [List.mem_append, List.mem_singleton, Prod.mk.injEq]
    split
    · next h' =>
      subst h'
      have away : (l', e') ∉ t.entries := fun hm ↦ h (List.mem_map.2 ⟨_, hm, rfl⟩)
      simp [away]
    · next h' => simp [h']

theorem entry?_insert (hl : l ≠ []) :
    entry? (t.insert l e) l' = if l' = l then some e else t.entry? l' := by
  by_cases h' : l' = []
  · subst h'
    rw [if_neg hl.symm, entry?_root, entry?_root]
  · ext x
    rw [entry?_eq_some_iff h', mem_entries_insert]
    split
    · rw [Option.some.injEq, eq_comm]
    · rw [entry?_eq_some_iff h']

theorem name_in_folder {n : Name} :
    (match l with
      | m :: parent => if parent = folder then some m else none
      | [] => none) = some n ↔ l = n :: folder := by
  cases l with
  | nil => simp
  | cons m parent => by_cases h : parent = folder <;> simp [h]

theorem mem_names {n : Name} : n ∈ t.names folder ↔ ∃ e, t.entry? (n :: folder) = some e := by
  simp only [entry?_eq_some_iff (List.cons_ne_nil n folder)]
  rw [names, List.mem_filterMap]
  constructor
  · rintro ⟨⟨l, e⟩, hm, hn⟩
    exact ⟨e, name_in_folder.1 hn ▸ hm⟩
  · rintro ⟨e, hm⟩
    exact ⟨_, hm, name_in_folder.2 rfl⟩

theorem nodup_names : (t.names folder).Nodup := by
  rw [names, List.Nodup, List.pairwise_filterMap]
  refine (List.pairwise_map.1 t.nodup).imp fun {p q} differ m hm n hn same ↦ differ ?_
  rw [name_in_folder.1 hm, name_in_folder.1 hn, same]

theorem entry?_perm (h : t.entries.Perm t'.entries) : t.entry? l = t'.entry? l := by
  by_cases hl : l = []
  · subst hl
    rfl
  · ext e
    rw [entry?_eq_some_iff hl, entry?_eq_some_iff hl, h.mem_iff]

theorem names_perm (h : t.entries.Perm t'.entries) : (t.names folder).Perm (t'.names folder) :=
  h.filterMap _

end FileTree

end TestMatrix
